import Rios.TcpStorm

/-!
# Stream integrity

What a side reads is a prefix of what its peer wrote, and nothing is outstanding
only where all of it has arrived. This holds of every run in which no side reads
before it has taken the SYN of its peer.
-/

namespace Rios.Tcp
open Rios.Machine Rios.Device Rios.Queue

namespace TcpConnection

/-- The connection may still write to its stream. -/
def writable (self : TcpConnection) : Prop :=
  self.state = .SynSent ∨ self.state = .SynReceived ∨ self.state = .Established ∨ self.state = .CloseWait

/-- What a segment does to the connection as a sender. -/
structure Sends (before : TcpConnection) (segment : TcpSegment) (after : TcpConnection) : Prop where
  next : after.send_next = before.send_next
  outstanding : after.outstanding = before.outstanding ∨ after.outstanding = none ∧ (after.state = .Closed ∨
    segment.acknowledgment = before.send_next ∧ segment.flags.contains .ACK = true ∧
      segment.flags.contains .RST = false)
  writes : after.writable → before.writable
  closed : after.state ≠ .Closed → before.state ≠ .Closed

/-- What a segment does to the connection as a receiver. -/
inductive Takes (before : TcpConnection) (segment : TcpSegment) (after : TcpConnection) : Prop
  | same (next : after.receive_next = before.receive_next) (closed : after.peer_closed = before.peer_closed)
      (received : after.received = before.received)
      (state : after.state = before.state ∨ after.state = .Closed ∨ after.state = .TimeWait ∧ before.state ≠ .SynSent ∨
        after.state = .Established ∧ before.state = .SynReceived)
  | opened (state : before.state = .SynSent) (flagged : segment.flags.contains .SYN = true)
      (unset : segment.flags.contains .RST = false) (next : after.receive_next = segment.sequence + 1)
      (closed : after.peer_closed = before.peer_closed) (received : after.received = before.received)
      (established : after.state = .Established) (free : after.outstanding = none)
  | taken (live : before.synchronized) (state : after.state ≠ .SynSent) (unset : segment.flags.contains .RST = false)
      (expected : segment.sequence = before.receive_next) (unclosed : before.peer_closed = false)
      (next : after.receive_next = before.receive_next + UInt32.ofNat segment.payload.length +
        (if segment.flags.contains .FIN then 1 else 0))
      (received : after.received = before.received ++ segment.payload)
      (closed : after.peer_closed = segment.flags.contains .FIN)
      (halves : after.state = .CloseWait → segment.flags.contains .FIN = true ∨ before.state = .CloseWait)
      (last : after.state = .LastAck → before.state = .LastAck)

/-- What a connection answers: an acknowledgment, or its SYN-ACK again. -/
inductive Answers (before : TcpConnection) (socket : TcpSocket) (after : TcpConnection) : Option TcpSegment → Prop
  | none : Answers before socket after none
  | acknowledges (joined : after.state ≠ .SynSent) (alive : after.state ≠ .Closed) :
      Answers before socket after (some (after.segment socket .ACK []))
  | repeats {pending : Outstanding} (waits : before.outstanding = some pending) (same : after = before)
      (joined : before.state = .SynReceived) : Answers before socket after (some pending.segment)

variable {self : TcpConnection} {socket : TcpSocket} {segment : TcpSegment} {now : SimTime}

theorem acknowledge_writable (writable : (self.acknowledge now).writable) : self.writable := by
  by_cases waits : self.state = .SynReceived
  · exact .inr (.inl waits)
  · rcases @acknowledge_state self now waits with same | ⟨-,-,closing⟩
    · unfold TcpConnection.writable at writable ⊢
      rwa [same] at writable
    · simp [TcpConnection.writable,closing] at writable

/-- Behind an acknowledgment a connection goes on, or it has ended and takes no payload. -/
theorem acknowledge_goes (state : self.synchronized) :
    (self.acknowledge now).synchronized ∧ (self.acknowledge now).state ≠ .SynReceived ∧
        ((self.acknowledge now).state = self.state ∨
          self.state = .SynReceived ∧ (self.acknowledge now).state = .Established) ∨
      (self.acknowledge now).state = .TimeWait ∧
        (self.acknowledge now).accept socket segment now = ((self.acknowledge now).noted segment now,none) := by
  by_cases waits : self.state = .SynReceived
  · left
    have later := @acknowledge_established self now waits
    exact ⟨by simp [synchronized,later],by simp [later],.inr ⟨waits,later⟩⟩
  · rcases @acknowledge_state self now waits with same | ⟨-,closed,closing⟩
    · left
      refine ⟨?_,by rw [same]; exact waits,.inl same⟩
      unfold synchronized at state ⊢
      rwa [same]
    · right
      refine ⟨closing,?_⟩
      have done : ((self.acknowledge now).noted segment now).peer_closed = true := by
        simp [noted,closed]
      simp only [accept,done,if_true]

/-- A segment in sequence does nothing to what was sent. -/
theorem accept_sends (halves : self.state = .LastAck → self.peer_closed = true) (live : self.state ≠ .Closed) :
    (self.accept socket segment now).1.send_next = self.send_next ∧
    (self.accept socket segment now).1.outstanding = self.outstanding ∧
    ((self.accept socket segment now).1.writable → self.writable ∨ self.state = .TimeWait) := by
  have accepted := self.accept_cases socket segment now
  generalize self.accept socket segment now = outcome at accepted
  cases accepted with
  | closed done => exact ⟨rfl,rfl,.inl⟩
  | full unclosed exceeds => exact ⟨rfl,rfl,.inl⟩
  | taken unclosed fits unfinished => exact ⟨rfl,rfl,.inl⟩
  | finished unclosed fits fin =>
    refine ⟨by rw [finish_send_next]; rfl,by rw [finish_outstanding]; rfl,fun writable => ?_⟩
    cases state : self.state with
    | FinWait =>
      rcases @finish_state ((self.noted segment now).extend segment) now with ⟨-,other⟩ | ⟨-,-,later⟩ | ⟨-,-,later⟩
      · exact absurd state other
      · simp [TcpConnection.writable,later] at writable
      · simp [TcpConnection.writable,later] at writable
    | LastAck =>
      rw [halves state] at unclosed
      cases unclosed
    | Closed => exact absurd state live
    | TimeWait => exact .inr rfl
    | _ => exact .inl (by simp [TcpConnection.writable,state])

theorem receive_sends (halves : self.state = .LastAck → self.peer_closed = true) :
    Sends self segment (self.receive socket segment now).1 := by
  have received := self.receive_cases socket segment now
  generalize self.receive socket segment now = outcome at received
  have untouched : Sends self segment self := ⟨rfl,.inl rfl,id,id⟩
  cases received with
  | ignored reason => exact untouched
  | reset flagged => exact ⟨rfl,.inr ⟨rfl,.inl rfl⟩,by simp [TcpConnection.writable],fun live => absurd rfl live⟩
  | waiting state same =>
    rcases same with rfl | rfl
    · exact untouched
    · refine ⟨rfl,.inl rfl,by simp [TcpConnection.writable,enter_time_wait],fun _ => ?_⟩
      rw [state]
      simp
  | opened state flagged acknowledged established unset =>
    rw [established]
    refine ⟨rfl,.inr ⟨rfl,.inr ⟨acknowledged,(TcpFlags.contains_both flagged).2,unset⟩⟩,fun _ => .inl state,fun _ => ?_⟩
    rw [state]
    simp
  | repeated state flagged same => exact untouched
  | unexpected state unset elsewhere => exact untouched
  | last state expected acknowledged => exact ⟨rfl,.inr ⟨rfl,.inl rfl⟩,by simp [TcpConnection.writable],fun live => absurd rfl live⟩
  | acknowledged state lives unset expected flagged acknowledged =>
    rcases @acknowledge_goes self socket segment now state with ⟨live,-,same⟩ | ⟨closing,ends⟩
    · have stays : (self.acknowledge now).state = .LastAck → (self.acknowledge now).peer_closed = true := by
        intro last
        rw [acknowledge_peer_closed]
        rcases same with same | ⟨-,later⟩
        · exact halves (same.symm.trans last)
        · rw [later] at last
          cases last
      obtain ⟨next,outstanding,writes⟩ := @accept_sends (self.acknowledge now) socket segment now stays live.1
      refine ⟨next.trans (by simp),.inr ⟨outstanding.trans (by simp),.inr ⟨acknowledged,flagged,unset⟩⟩,?_,fun _ => state.1⟩
      exact fun writable => acknowledge_writable ((writes writable).resolve_right live.2.1)
    · rw [ends]
      refine ⟨acknowledge_send_next,.inr ⟨acknowledge_outstanding,.inr ⟨acknowledged,flagged,unset⟩⟩,?_,fun _ => state.1⟩
      simp [TcpConnection.writable,noted,closing]
  | unacknowledged state opened unset expected flagged waits =>
    obtain ⟨next,outstanding,writes⟩ := @accept_sends self socket segment now halves state.1
    exact ⟨next,.inl outstanding,fun writable => (writes writable).resolve_right state.2.1,fun _ => state.1⟩

/-- What the payload of a segment in sequence does. -/
theorem accept_takes (live : self.synchronized) (unset : segment.flags.contains .RST = false)
    (expected : segment.sequence = self.receive_next) : Takes self segment (self.accept socket segment now).1 := by
  have accepted := self.accept_cases socket segment now
  generalize self.accept socket segment now = outcome at accepted
  cases accepted with
  | closed done => exact .same rfl rfl rfl (.inl rfl)
  | full unclosed exceeds => exact .same rfl rfl rfl (.inl rfl)
  | taken unclosed fits unfinished =>
    refine .taken live live.2.2 unset expected unclosed ?_ rfl ?_ (fun state => .inr state) (fun state => state)
    · simp [extend,noted,unfinished]
    · rw [unfinished]
      exact unclosed
  | finished unclosed fits fin =>
    have state := @finish_state ((self.noted segment now).extend segment) now
    refine .taken live ?_ unset expected unclosed ?_ ?_ ?_ (fun _ => .inl fin) ?_
    · rcases state with ⟨later,-⟩ | ⟨-,-,later⟩ | ⟨-,-,later⟩ <;> simp [later]
    · rw [finish_receive_next]
      simp [extend,noted,fin]
    · rw [finish_received]
      rfl
    · rw [finish_peer_closed,fin]
    · intro last
      rcases state with ⟨later,-⟩ | ⟨-,-,later⟩ | ⟨-,-,later⟩
      all_goals
        rw [later] at last
        cases last

theorem receive_takes : Takes self segment (self.receive socket segment now).1 := by
  have received := self.receive_cases socket segment now
  generalize self.receive socket segment now = outcome at received
  have untouched : Takes self segment self := .same rfl rfl rfl (.inl rfl)
  cases received with
  | ignored reason => exact untouched
  | reset flagged => exact .same rfl rfl rfl (.inr (.inl rfl))
  | waiting state same =>
    rcases same with rfl | rfl
    · exact untouched
    · exact .same rfl rfl rfl (.inl state.symm)
  | opened state flagged acknowledged established unset =>
    rw [established]
    exact .opened state (TcpFlags.contains_both flagged).1 unset rfl rfl rfl rfl rfl
  | repeated state flagged same => exact untouched
  | unexpected state unset elsewhere => exact untouched
  | last state expected acknowledged => exact .same rfl rfl rfl (.inr (.inl rfl))
  | acknowledged state lives unset expected flagged acknowledged =>
    rcases @acknowledge_goes self socket segment now state with ⟨live,opened,stays⟩ | ⟨closing,ends⟩
    · have takes := @accept_takes (self.acknowledge now) socket segment now live unset (by simpa using expected)
      generalize (self.acknowledge now).accept socket segment now = outcome at takes
      cases takes with
      | same next closed received later =>
        refine .same (next.trans (by simp)) (closed.trans (by simp)) (received.trans (by simp)) ?_
        rcases later with later | gone | ⟨waits,-⟩ | ⟨-,waits⟩
        · rcases stays with same | ⟨before,established⟩
          · exact .inl (later.trans same)
          · exact .inr (.inr (.inr ⟨later.trans established,before⟩))
        · exact .inr (.inl gone)
        · exact .inr (.inr (.inl ⟨waits,state.2.2⟩))
        · exact absurd waits opened
      | opened before => exact absurd before live.2.2
      | taken _ later _ _ unclosed next received closed halves last =>
        refine .taken state later unset expected ?_ (next.trans (by simp)) (received.trans (by simp)) closed ?_ ?_
        · simpa using unclosed
        · intro half
          rcases halves half with fin | before
          · exact .inl fin
          · rcases stays with same | ⟨-,established⟩
            · exact .inr (same.symm.trans before)
            · rw [established] at before
              cases before
        · intro half
          rcases stays with same | ⟨-,established⟩
          · exact same.symm.trans (last half)
          · rw [last half] at established
            cases established
    · rw [ends]
      exact .same acknowledge_receive_next acknowledge_peer_closed acknowledge_received
        (.inr (.inr (.inl ⟨closing,state.2.2⟩)))
  | unacknowledged state opened unset expected flagged waits => exact accept_takes state unset expected

theorem accept_answer (live : self.state ≠ .SynSent) (alive : self.state ≠ .Closed) :
    Answers self socket (self.accept socket segment now).1 (self.accept socket segment now).2 := by
  have accepted := self.accept_cases socket segment now
  generalize self.accept socket segment now = outcome at accepted
  cases accepted with
  | closed done => exact .none
  | full unclosed exceeds => exact .acknowledges live alive
  | taken unclosed fits unfinished =>
    simp only
    split
    · exact .acknowledges live alive
    · exact .none
  | finished unclosed fits fin =>
    refine .acknowledges ?_ ?_
    all_goals
      rcases @finish_state ((self.noted segment now).extend segment) now with ⟨later,-⟩ | ⟨-,-,later⟩ | ⟨-,-,later⟩
      all_goals simp [later]

theorem Answers.weaken {before after : TcpConnection} {answer : Option TcpSegment}
    (answers : Answers self socket after answer) (quiet : self.state ≠ .SynReceived) :
    Answers before socket after answer := by
  cases answers with
  | none => exact .none
  | acknowledges joined alive => exact .acknowledges joined alive
  | repeats waits same joined => exact absurd joined quiet

theorem receive_answer : Answers self socket (self.receive socket segment now).1 (self.receive socket segment now).2 := by
  have received := self.receive_cases socket segment now
  generalize self.receive socket segment now = outcome at received
  cases received with
  | ignored reason => exact .none
  | reset flagged => exact .none
  | waiting state same =>
    simp only
    split
    · rcases same with rfl | rfl
      · exact .acknowledges (by simp [state]) (by simp [state])
      · exact .acknowledges (by simp [enter_time_wait]) (by simp [enter_time_wait])
    · exact .none
  | opened state flagged acknowledged established =>
    exact .acknowledges (by simp [established]) (by simp [established])
  | repeated state flagged same =>
    cases waits : self.outstanding with
    | none => exact .none
    | some pending => exact .repeats waits rfl state
  | unexpected state unset elsewhere => exact .acknowledges state.2.2 state.1
  | last state expected acknowledged => exact .none
  | acknowledged state lives unset expected flagged acknowledged =>
    rcases @acknowledge_goes self socket segment now state with ⟨live,opened,-⟩ | ⟨-,ends⟩
    · exact (accept_answer live.2.2 live.1).weaken opened
    · rw [ends]
      exact .none
  | unacknowledged state opened unset expected flagged waits => exact accept_answer state.2.2 state.1

/-- A retransmission changes nothing but its deadline, or ends the connection. -/
theorem retransmit_changes : (self.retransmit now).1.send_next = self.send_next ∧
    (self.retransmit now).1.receive_next = self.receive_next ∧
    (self.retransmit now).1.peer_closed = self.peer_closed ∧
    (self.retransmit now).1.received = self.received ∧
    ((self.retransmit now).1.state = self.state ∨ (self.retransmit now).1.state = .Closed) ∧
    ((self.retransmit now).1.outstanding = none → self.outstanding = none) ∧
    (∀ waits ∈ (self.retransmit now).1.outstanding, ∃ before ∈ self.outstanding, waits.segment = before.segment) ∧
    ∀ segment, (self.retransmit now).2 = some segment → ∃ before ∈ self.outstanding, before.segment = segment := by
  unfold retransmit
  cases held : self.outstanding with
  | none =>
    refine ⟨rfl,rfl,rfl,rfl,.inl rfl,fun _ => rfl,fun waits pending => ?_,fun segment none => by cases none⟩
    rw [held] at pending
    cases pending
  | some before =>
    simp only
    split
    · refine ⟨rfl,rfl,rfl,rfl,.inl rfl,fun none => ?_,fun waits pending => ?_,fun segment none => by cases none⟩
      · rw [held] at none
        cases none
      · rw [held] at pending
        exact ⟨waits,pending,rfl⟩
    · split
      · exact ⟨rfl,rfl,rfl,rfl,.inr rfl,fun none => none,fun waits pending => ⟨waits,pending,rfl⟩,
          fun segment none => by cases none⟩
      · refine ⟨rfl,rfl,rfl,rfl,.inl rfl,fun none => (by cases none),?_,?_⟩
        · rintro _ ⟨⟩
          exact ⟨before,rfl,rfl⟩
        · rintro _ ⟨⟩
          exact ⟨before,rfl,rfl⟩

end TcpConnection

/-! ### One direction of a stream -/

/-- All sequence numbers of the party are used up by its SYN, its bytes and its FIN. -/
def Party.Finished (self : Party) : Prop := self.opened = 1 ∧ self.used = 2 + self.sent.length

/-- A segment of the stream of a party, which starts at a sequence number. -/
def Numbered (start : UInt32) (sender : Party) (segment : TcpSegment) : Prop :=
  ∃ offset, segment.sequence = start + UInt32.ofNat offset ∧ sender.opened = 1 ∧ offset ≤ sender.used ∧
    (segment.flags.contains .SYN = true →
      offset = 0 ∧ segment.payload = [] ∧ segment.flags.contains .FIN = false) ∧
    (segment.flags.contains .SYN = false → 1 ≤ offset ∧ segment.payload <+: sender.sent.drop (offset - 1) ∧
      (segment.flags.contains .FIN = true →
        segment.payload = [] ∧ offset = 1 + sender.sent.length ∧ sender.Finished))

/-- The segment acknowledges no more than its sender has taken. -/
def Covers (start : UInt32) (sender receiver : Party) (segment : TcpSegment) : Prop :=
  segment.flags.contains .ACK = true → ∃ count, segment.acknowledgment = start + UInt32.ofNat count ∧
    (count ≤ 1 + receiver.stream.length ∨
      receiver.stream = sender.sent ∧ sender.Finished ∧ count = sender.used)

/-- The stream of one party, and what the other one has of it. -/
structure Half (start : UInt32) (sender receiver : Party) (forth back : TcpSegment → Prop) : Prop where
  unopened : sender.opened = 0 → sender.used = 0 ∧ sender.sent = [] ∧ sender.endpoint.connection = none ∧
    sender.endpoint.next_sequence + 64000 = start ∧ sender.joined = false
  counted : sender.opened = 1 → sender.used = 1 + sender.sent.length ∨ sender.Finished
  finished : sender.Finished → ∀ connection ∈ sender.endpoint.connection, ¬ connection.writable
  sends : ∀ connection ∈ sender.endpoint.connection, connection.send_next = start + UInt32.ofNat sender.used
  pending : ∀ connection ∈ sender.endpoint.connection, ∀ waits ∈ connection.outstanding, Numbered start sender waits.segment
  settled : ∀ connection ∈ sender.endpoint.connection, connection.outstanding = none → connection.state ≠ .Closed →
    receiver.stream = sender.sent
  meets : receiver.joined = true → sender.opened = 1
  receives : receiver.joined = true → ∀ connection ∈ receiver.endpoint.connection, connection.receive_next =
    start + UInt32.ofNat (1 + receiver.stream.length + if connection.peer_closed then 1 else 0)
  awake : receiver.joined = true → ∀ connection ∈ receiver.endpoint.connection, connection.state ≠ .SynSent
  apart : receiver.joined = false → receiver.stream = [] ∧ receiver.read = [] ∧
    ∀ connection ∈ receiver.endpoint.connection, (connection.state = .SynSent ∨ connection.state = .Closed) ∧
      connection.peer_closed = false ∧ connection.received = []
  arrived : receiver.stream <+: sender.sent
  closed : ∀ connection ∈ receiver.endpoint.connection, connection.peer_closed = true →
    receiver.stream = sender.sent ∧ sender.Finished
  halves : ∀ connection ∈ receiver.endpoint.connection,
    connection.state = .CloseWait ∨ connection.state = .LastAck → connection.peer_closed = true
  buffered : ∀ connection ∈ receiver.endpoint.connection, receiver.read ++ connection.received = receiver.stream
  drained : receiver.read <+: receiver.stream
  numbered : ∀ segment, forth segment → segment.flags.contains .RST = false → Numbered start sender segment
  covered : ∀ segment, back segment → segment.flags.contains .RST = false → Covers start sender receiver segment
  promised : ∀ connection ∈ receiver.endpoint.connection, ∀ waits ∈ connection.outstanding,
    Covers start sender receiver waits.segment

/-- Fewer than `2 ^ 32` sequence numbers are told apart. -/
theorem position_injective {start : UInt32} {a b : Nat} (small : a < 2 ^ 32) (little : b < 2 ^ 32)
    (same : start + UInt32.ofNat a = start + UInt32.ofNat b) : a = b := by
  have both := congrArg UInt32.toNat (add_left_cancel same)
  rwa [UInt32.toNat_ofNat',UInt32.toNat_ofNat',Nat.mod_eq_of_lt small,Nat.mod_eq_of_lt little] at both

/-- A sender later. -/
structure Grows (before after : Party) : Prop where
  opened : after.opened = before.opened
  used : before.used ≤ after.used
  sent : before.sent <+: after.sent
  frozen : before.Finished → after.sent = before.sent ∧ after.used = before.used

theorem Grows.refl (party : Party) : Grows party party := ⟨rfl,le_rfl,List.prefix_rfl,fun _ => ⟨rfl,rfl⟩⟩

theorem Grows.finished {before after : Party} (grows : Grows before after) (finished : before.Finished) :
    after.Finished := by
  obtain ⟨sent,used⟩ := grows.frozen finished
  unfold Party.Finished at finished ⊢
  rw [grows.opened,sent,used]
  exact finished

variable {start : UInt32} {sender sender' receiver receiver' : Party} {forth back : TcpSegment → Prop}
  {segment : TcpSegment}

theorem Numbered.grows (numbered : Numbered start sender segment) (grows : Grows sender sender') :
    Numbered start sender' segment := by
  obtain ⟨offset,place,opened,inside,syn,plain⟩ := numbered
  refine ⟨offset,place,grows.opened.trans opened,inside.trans grows.used,syn,fun unset => ?_⟩
  obtain ⟨first,payload,fin⟩ := plain unset
  refine ⟨first,?_,fun last => ?_⟩
  · obtain ⟨more,whole⟩ := grows.sent
    rw [← whole]
    by_cases within : offset - 1 ≤ sender.sent.length
    · rw [List.drop_append_of_le_length within]
      exact payload.trans (List.prefix_append _ _)
    · rw [List.drop_eq_nil_of_le (by omega)] at payload
      rw [List.prefix_nil.mp payload]
      exact List.nil_prefix
  · obtain ⟨empty,end_,finished⟩ := fin last
    rw [(grows.frozen finished).1]
    exact ⟨empty,end_,grows.finished finished⟩

theorem Covers.grows (covers : Covers start sender receiver segment) (grows : Grows sender sender')
    (stream : receiver.stream <+: receiver'.stream) (arrived : receiver'.stream <+: sender'.sent) :
    Covers start sender' receiver' segment := by
  intro flagged
  obtain ⟨count,place,some | ⟨all,finished,last⟩⟩ := covers flagged
  · exact ⟨count,place,.inl (some.trans (by have := stream.length_le; omega))⟩
  · obtain ⟨sent,used⟩ := grows.frozen finished
    refine ⟨count,place,.inr ⟨?_,grows.finished finished,last.trans used.symm⟩⟩
    rw [sent] at arrived ⊢
    rw [all] at stream
    exact arrived.eq_of_length (le_antisymm arrived.length_le stream.length_le)

namespace Half

/-- A change of the sender that leaves the stream behind it. -/
theorem sender_changes (half : Half start sender receiver forth back) (grows : Grows sender sender')
    (supply : sender'.endpoint.next_sequence = sender.endpoint.next_sequence)
    (idle : sender.endpoint.connection = none →
      sender'.used = sender.used ∧ sender'.sent = sender.sent ∧ sender'.joined = sender.joined)
    (counted : sender'.opened = 1 → sender'.used = 1 + sender'.sent.length ∨ sender'.Finished)
    (connection : ∀ after ∈ sender'.endpoint.connection, (∃ before, sender.endpoint.connection = some before) ∧
      (sender'.Finished → ¬ after.writable) ∧ after.send_next = start + UInt32.ofNat sender'.used ∧
      (∀ waits ∈ after.outstanding, Numbered start sender' waits.segment) ∧
      (after.outstanding = none → after.state ≠ .Closed → receiver.stream = sender'.sent)) :
    Half start sender' receiver forth back := by
  have arrived := half.arrived.trans grows.sent
  have covers : ∀ segment, Covers start sender receiver segment → Covers start sender' receiver segment :=
    fun segment covers => covers.grows grows List.prefix_rfl arrived
  refine ⟨?_,counted,?_,?_,?_,?_,?_,half.receives,half.awake,half.apart,arrived,?_,half.halves,half.buffered,half.drained,?_,?_,?_⟩
  · intro unopened
    rw [grows.opened] at unopened
    obtain ⟨used,sent,missing,begins,alone⟩ := half.unopened unopened
    obtain ⟨same,unsent,apart⟩ := idle missing
    refine ⟨same.trans used,unsent.trans sent,?_,by rw [supply,begins],apart.trans alone⟩
    cases present : sender'.endpoint.connection with
    | none => rfl
    | some after =>
      obtain ⟨before,was⟩ := (connection after present).1
      rw [missing] at was
      cases was
  · exact fun finished after present => (connection after present).2.1 finished
  · exact fun after present => (connection after present).2.2.1
  · exact fun after present => (connection after present).2.2.2.1
  · exact fun after present => (connection after present).2.2.2.2
  · exact fun joined => grows.opened.trans (half.meets joined)
  · intro peer present ended
    obtain ⟨all,finished⟩ := half.closed peer present ended
    exact ⟨all.trans (grows.frozen finished).1.symm,grows.finished finished⟩
  · exact fun segment sent unset => (half.numbered segment sent unset).grows grows
  · exact fun segment sent unset => covers segment (half.covered segment sent unset)
  · exact fun peer present waits pending => covers _ (half.promised peer present waits pending)

/-- A change of the receiver that takes nothing from the stream. -/
theorem receiver_changes (half : Half start sender receiver forth back) (joined : receiver'.joined = receiver.joined)
    (stream : receiver'.stream = receiver.stream) (drained : receiver'.read <+: receiver.stream)
    (unread : receiver.joined = false → receiver'.read = [])
    (connection : ∀ after ∈ receiver'.endpoint.connection, ∃ before ∈ receiver.endpoint.connection,
      after.receive_next = before.receive_next ∧ after.peer_closed = before.peer_closed ∧
      receiver'.read ++ after.received = receiver.stream ∧
      (after.state = .CloseWait ∨ after.state = .LastAck → before.peer_closed = true) ∧
      (after.state = .SynSent → before.state = .SynSent) ∧
      (receiver.joined = false → (after.state = .SynSent ∨ after.state = .Closed) ∧ after.received = []) ∧
      ∀ waits ∈ after.outstanding, Covers start sender receiver waits.segment) :
    Half start sender receiver' forth back := by
  have covers : ∀ segment, Covers start sender receiver segment → Covers start sender receiver' segment :=
    fun segment covers => covers.grows (.refl sender) (by rw [stream]) (by rw [stream]; exact half.arrived)
  refine ⟨half.unopened,half.counted,half.finished,half.sends,half.pending,?_,?_,?_,?_,?_,?_,?_,?_,?_,?_,half.numbered,
    ?_,?_⟩
  · rw [stream]
    exact half.settled
  · rw [joined]
    exact half.meets
  · intro met after present
    rw [joined] at met
    obtain ⟨before,was,next,closed,-⟩ := connection after present
    rw [next,stream,closed]
    exact half.receives met before was
  · intro met after present asleep
    rw [joined] at met
    obtain ⟨before,was,-,-,-,-,state,-⟩ := connection after present
    exact half.awake met before was (state asleep)
  · intro alone
    rw [joined] at alone
    obtain ⟨empty,-,asleep⟩ := half.apart alone
    refine ⟨stream.trans empty,unread alone,fun after present => ?_⟩
    obtain ⟨before,was,-,closed,-,-,-,quiet,-⟩ := connection after present
    obtain ⟨state,nothing⟩ := quiet alone
    exact ⟨state,closed.trans (asleep before was).2.1,nothing⟩
  · rw [stream]
    exact half.arrived
  · intro after present ended
    obtain ⟨before,was,-,closed,-⟩ := connection after present
    rw [stream]
    exact half.closed before was (closed.symm.trans ended)
  · intro after present half_
    obtain ⟨before,was,-,closed,-,halves,-⟩ := connection after present
    exact closed.trans (halves half_)
  · intro after present
    obtain ⟨before,was,-,-,buffer,-⟩ := connection after present
    rw [stream]
    exact buffer
  · rw [stream]
    exact drained
  · exact fun segment sent unset => covers segment (half.covered segment sent unset)
  · intro after present waits pending
    obtain ⟨before,was,-,-,-,-,-,-,promised⟩ := connection after present
    exact covers _ (promised waits pending)

/-- Segments in flight may get lost, and others may come. -/
theorem flight_changes {forth' back' : TcpSegment → Prop} (half : Half start sender receiver forth back)
    (numbered : ∀ segment, forth' segment → segment.flags.contains .RST = false →
      forth segment ∨ Numbered start sender segment)
    (covered : ∀ segment, back' segment → segment.flags.contains .RST = false →
      back segment ∨ Covers start sender receiver segment) : Half start sender receiver forth' back' := by
  refine { half with numbered := fun segment sent unset => ?_, covered := fun segment sent unset => ?_ }
  · rcases numbered segment sent unset with old | new
    · exact half.numbered segment old unset
    · exact new
  · rcases covered segment sent unset with old | new
    · exact half.covered segment old unset
    · exact new

/-- Whatever a connection sends carries a number of its stream. -/
theorem acknowledgment_numbered (half : Half start sender receiver forth back) {connection : TcpConnection}
    (present : sender.endpoint.connection = some connection) (opened : sender.opened = 1) (socket : TcpSocket) :
    Numbered start sender (connection.segment socket .ACK []) := by
  have plain : TcpFlags.ACK.contains .SYN = false ∧ TcpFlags.ACK.contains .FIN = false := by decide
  have used : 1 ≤ sender.used := by
    rcases half.counted opened with count | ⟨-,count⟩ <;> omega
  refine ⟨sender.used,half.sends connection present,opened,le_rfl,fun syn => ?_,fun _ => ⟨used,List.nil_prefix,fun fin => ?_⟩⟩
  · rw [TcpConnection.segment_flags,plain.1] at syn
    cases syn
  · rw [TcpConnection.segment_flags,plain.2] at fin
    cases fin

/-- Whatever a connection sends that has met its peer covers what it has taken. -/
theorem segment_covers (half : Half start sender receiver forth back) {connection : TcpConnection}
    (present : receiver.endpoint.connection = some connection) (joined : receiver.joined = true) (socket : TcpSocket)
    (flags : TcpFlags) (payload : List UInt8) : Covers start sender receiver (connection.segment socket flags payload) := by
  intro _
  refine ⟨_,half.receives joined connection present,?_⟩
  cases closed : connection.peer_closed with
  | false => exact .inl (by simp)
  | true =>
    obtain ⟨all,finished⟩ := half.closed connection present closed
    refine .inr ⟨all,finished,?_⟩
    rw [finished.2,all,if_pos rfl]
    omega

theorem opened_once (half : Half start sender receiver forth back) (once : sender.opened ≤ 1) {connection : TcpConnection}
    (present : sender.endpoint.connection = some connection) : sender.opened = 1 := by
  rcases Nat.le_one_iff_eq_zero_or_eq_one.mp once with none | one
  · have missing := (half.unopened none).2.2.1
    rw [present] at missing
    cases missing
  · exact one

theorem used_bounds (half : Half start sender receiver forth back) (opened : sender.opened = 1) :
    1 + sender.sent.length ≤ sender.used := by
  rcases half.counted opened with count | ⟨-,count⟩ <;> omega

/-- A segment that acknowledges all that was sent comes from a side that has it. -/
theorem acknowledged_all (half : Half start sender receiver forth back) (few : sender.used < 2 ^ 32)
    (opened : sender.opened = 1) (covers : Covers start sender receiver segment)
    (flagged : segment.flags.contains .ACK = true)
    (acknowledged : segment.acknowledgment = start + UInt32.ofNat sender.used) : receiver.stream = sender.sent := by
  obtain ⟨count,place,some | ⟨all,-⟩⟩ := covers flagged
  · have less := half.arrived.length_le
    have most := half.used_bounds opened
    have same := position_injective (by omega) few (place.symm.trans acknowledged)
    exact half.arrived.eq_of_length (by omega)
  · exact all

/-- The payload of a segment in sequence is what comes next. -/
theorem in_sequence (half : Half start sender receiver forth back) (few : sender.used < 2 ^ 32)
    {connection : TcpConnection} (present : receiver.endpoint.connection = some connection) (joined : receiver.joined = true)
    (numbered : Numbered start sender segment) (expected : segment.sequence = connection.receive_next)
    (unclosed : connection.peer_closed = false) : receiver.stream ++ segment.payload <+: sender.sent ∧
      (segment.flags.contains .FIN = true →
        segment.payload = [] ∧ receiver.stream = sender.sent ∧ sender.Finished) := by
  obtain ⟨offset,place,opened,inside,syn,plain⟩ := numbered
  have receives := half.receives joined connection present
  have less := half.arrived.length_le
  have most := half.used_bounds opened
  rw [unclosed] at receives
  have same := position_injective (by omega) (by simp; omega) (place.symm.trans (expected.trans receives))
  simp only [Bool.false_eq_true,if_false,add_zero] at same
  cases flagged : segment.flags.contains .SYN with
  | true =>
    have zero := (syn flagged).1
    omega
  | false =>
    obtain ⟨-,payload,fin⟩ := plain flagged
    have next : offset - 1 = receiver.stream.length := by omega
    refine ⟨?_,fun last => ?_⟩
    · obtain ⟨more,whole⟩ := half.arrived
      rw [next,← whole,List.drop_left] at payload
      rw [← whole]
      exact (List.prefix_append_right_inj _).mpr payload
    · obtain ⟨empty,ends,finished⟩ := fin last
      exact ⟨empty,half.arrived.eq_of_length (by omega),finished⟩

/-- The receiver takes a segment in sequence. -/
theorem receiver_takes (half : Half start sender receiver forth back) (few : sender.used < 2 ^ 32)
    {connection after : TcpConnection} (present : receiver.endpoint.connection = some connection)
    (joined : receiver.joined = true) (numbered : Numbered start sender segment)
    (expected : segment.sequence = connection.receive_next) (unclosed : connection.peer_closed = false)
    (next : after.receive_next = connection.receive_next + UInt32.ofNat segment.payload.length +
      (if segment.flags.contains .FIN then 1 else 0))
    (received : after.received = connection.received ++ segment.payload)
    (closed : after.peer_closed = segment.flags.contains .FIN)
    (halves : after.state = .CloseWait ∨ after.state = .LastAck → segment.flags.contains .FIN = true)
    (state : after.state ≠ .SynSent) (outstanding : ∀ waits ∈ after.outstanding, waits ∈ connection.outstanding)
    (now : receiver'.endpoint.connection = some after) (still : receiver'.joined = true)
    (read : receiver'.read = receiver.read) (stream : receiver'.stream = receiver.stream ++ segment.payload) :
    Half start sender receiver' forth back := by
  obtain ⟨arrived,fin⟩ := half.in_sequence few present joined numbered expected unclosed
  rw [← stream] at arrived
  have grows : receiver.stream <+: receiver'.stream := by
    rw [stream]
    exact List.prefix_append _ _
  have covers : ∀ segment, Covers start sender receiver segment → Covers start sender receiver' segment :=
    fun segment covers => covers.grows (.refl sender) grows arrived
  refine ⟨half.unopened,half.counted,half.finished,half.sends,half.pending,?_,fun _ => half.meets joined,?_,?_,?_,arrived,?_,
    ?_,?_,?_,half.numbered,?_,?_⟩
  · intro writer writes free live
    have all := half.settled writer writes free live
    rw [← all] at arrived
    exact (arrived.eq_of_length (le_antisymm arrived.length_le grows.length_le)).trans all
  · intro _ peer same
    rw [now] at same
    cases same
    have receives := half.receives joined connection present
    rw [unclosed] at receives
    rw [next,receives,closed,stream,List.length_append]
    cases segment.flags.contains .FIN with
    | false =>
      simp only [Bool.false_eq_true,if_false,add_zero,← Nat.add_assoc,UInt32.ofNat_add,← UInt32.add_assoc]
    | true =>
      simp only [Bool.false_eq_true,if_false,if_true,add_zero,← Nat.add_assoc,UInt32.ofNat_add,← UInt32.add_assoc]
      rfl
  · intro _ peer same
    rw [now] at same
    cases same
    exact state
  · intro alone
    rw [still] at alone
    cases alone
  · intro peer same ended
    rw [now] at same
    cases same
    obtain ⟨empty,all,finished⟩ := fin (closed.symm.trans ended)
    rw [stream,empty,List.append_nil]
    exact ⟨all,finished⟩
  · intro peer same half_
    rw [now] at same
    cases same
    exact closed.trans (halves half_)
  · intro peer same
    rw [now] at same
    cases same
    rw [read,received,stream,← List.append_assoc,half.buffered connection present]
  · rw [read]
    exact half.drained.trans grows
  · exact fun segment sent unset => covers segment (half.covered segment sent unset)
  · intro peer same waits pending
    rw [now] at same
    cases same
    exact covers _ (half.promised connection present waits (outstanding waits pending))

/-- The receiver takes the SYN of its peer. -/
theorem receiver_joins (half : Half start sender receiver forth back) (alone : receiver.joined = false)
    (numbered : Numbered start sender segment) (flagged : segment.flags.contains .SYN = true) {after : TcpConnection}
    (next : after.receive_next = segment.sequence + 1) (closed : after.peer_closed = false) (received : after.received = [])
    (halves : after.state ≠ .CloseWait ∧ after.state ≠ .LastAck) (state : after.state ≠ .SynSent)
    (outstanding : ∀ waits ∈ after.outstanding, waits.segment.acknowledgment = segment.sequence + 1)
    (now : receiver'.endpoint.connection = some after) (joined : receiver'.joined = true)
    (read : receiver'.read = receiver.read) (stream : receiver'.stream = receiver.stream) :
    Half start sender receiver' forth back := by
  obtain ⟨offset,place,opened,-,syn,-⟩ := numbered
  obtain ⟨empty,unread,-⟩ := half.apart alone
  rw [(syn flagged).1] at place
  have covers : ∀ segment, Covers start sender receiver segment → Covers start sender receiver' segment :=
    fun segment covers => covers.grows (.refl sender) (by rw [stream]) (by rw [stream]; exact half.arrived)
  refine ⟨half.unopened,half.counted,half.finished,half.sends,half.pending,?_,fun _ => opened,?_,?_,?_,?_,?_,?_,?_,
    ?_,half.numbered,?_,?_⟩
  · rw [stream]
    exact half.settled
  · intro _ peer same
    rw [now] at same
    cases same
    rw [next,closed,stream,empty,place]
    simp
  · intro _ peer same
    rw [now] at same
    cases same
    exact state
  · intro other
    rw [joined] at other
    cases other
  · rw [stream]
    exact half.arrived
  · intro peer same ended
    rw [now] at same
    cases same
    rw [closed] at ended
    cases ended
  · intro peer same either
    rw [now] at same
    cases same
    exact absurd either (not_or.mpr halves)
  · intro peer same
    rw [now] at same
    cases same
    rw [read,unread,received,stream,empty]
    rfl
  · rw [read,unread]
    exact List.nil_prefix
  · exact fun segment sent unset => covers segment (half.covered segment sent unset)
  · intro peer same waits pending
    rw [now] at same
    cases same
    intro _
    refine ⟨1,?_,.inl (by omega)⟩
    rw [outstanding waits pending,place]
    simp

end Half

/-! ### What a call does to both directions -/

/-- How a party and what it emits stand to the stream that it writes, and to the
    one that it reads. -/
structure Both (mine yours : UInt32) (peer : Party) (forth back : TcpSegment → Prop)
    (called : Party × Option TcpSegment) : Prop where
  sender : Half mine called.1 peer forth back
  receiver : Half yours peer called.1 back forth
  numbered : ∀ segment, called.2 = some segment → segment.flags.contains .RST = false → Numbered mine called.1 segment
  covers : ∀ segment, called.2 = some segment → segment.flags.contains .RST = false → Covers yours peer called.1 segment

section Calls

variable {mine yours : UInt32} {party peer : Party} {forth back : TcpSegment → Prop} {socket : TcpSocket} {now : SimTime}

theorem both_unchanged (sends : Half mine party peer forth back) (takes : Half yours peer party back forth) :
    Both mine yours peer forth back (party,none) :=
  ⟨sends,takes,fun _ none => (by cases none),fun _ none => (by cases none)⟩

/-- A connection that is Established or half closed has taken the SYN of its peer. -/
theorem joined_of_state (takes : Half yours peer party back forth) {connection : TcpConnection}
    (present : party.endpoint.connection = some connection) (asleep : connection.state ≠ .SynSent)
    (alive : connection.state ≠ .Closed) : party.joined = true := by
  cases joined : party.joined with
  | true => rfl
  | false =>
    rcases ((takes.apart joined).2.2 connection present).1 with state | state
    · exact absurd state asleep
    · exact absurd state alive

theorem send_length {connection : TcpConnection} {payload : List UInt8} (small : payload.length ≤ MAX_PAYLOAD) :
    (connection.segment socket (TcpFlags.ACK.or .PSH) payload).sequence_len = UInt32.ofNat payload.length ∧
      (UInt32.ofNat payload.length).toNat = payload.length := by
  have plain : (TcpFlags.ACK.or .PSH).contains .SYN = false ∧ (TcpFlags.ACK.or .PSH).contains .FIN = false := by decide
  constructor
  · simp [TcpSegment.sequence_len,plain]
  · rw [UInt32.toNat_ofNat',Nat.mod_eq_of_lt (by rw [MAX_PAYLOAD] at small; omega)]

theorem send_both (sends : Half mine party peer forth back) (takes : Half yours peer party back forth)
    (once : party.opened ≤ 1) (payload : List UInt8) :
    Both mine yours peer forth back (party.send socket payload now) := by
  rcases party.send_cases socket payload now with same | ⟨connection,present,nonempty,small,state,free,-,sent⟩
  · rw [same]
    exact both_unchanged sends takes
  rw [sent]
  have opened := sends.opened_once once present
  have writable : connection.writable := by
    rcases state with state | state <;> simp [TcpConnection.writable,state]
  have count : party.used = 1 + party.sent.length :=
    (sends.counted opened).resolve_right (fun finished => sends.finished finished connection present writable)
  obtain ⟨length,size⟩ := @send_length socket connection payload small
  have joined := joined_of_state takes present (by rcases state with state | state <;> simp [state])
    (by rcases state with state | state <;> simp [state])
  have covers := takes.segment_covers present joined socket (TcpFlags.ACK.or .PSH) payload
  have occupies : UInt32.ofNat payload.length ≠ 0 := by
    intro zero
    rw [zero] at size
    exact nonempty (List.length_eq_zero_iff.mp size.symm)
  have numbered : ∀ later : Party, later.opened = party.opened → later.used = party.used + payload.length →
      later.sent = party.sent ++ payload → Numbered mine later (connection.segment socket (TcpFlags.ACK.or .PSH) payload) := by
    intro later opens uses all
    refine ⟨party.used,sends.sends connection present,opens.trans opened,by omega,fun syn => ?_,fun _ => ⟨by omega,?_,?_⟩⟩
    · rw [TcpConnection.segment_flags] at syn
      exact absurd syn (by decide)
    · rw [all,count,Nat.add_sub_cancel_left,List.drop_left]
      exact List.prefix_rfl
    · intro fin
      rw [TcpConnection.segment_flags] at fin
      exact absurd fin (by decide)
  refine ⟨?_,?_,?_,?_⟩
  · refine sends.sender_changes ⟨rfl,?_,List.prefix_append _ _,fun finished => ?_⟩ rfl (fun missing => ?_) (fun _ => .inl ?_) ?_
    · exact Nat.le_add_right _ _
    · exact absurd writable (sends.finished finished connection present)
    · rw [present] at missing
      cases missing
    · show party.used + (connection.segment socket (TcpFlags.ACK.or .PSH) payload).sequence_len.toNat =
        1 + (party.sent ++ payload).length
      rw [length,size,List.length_append]
      omega
    · rintro _ ⟨⟩
      refine ⟨⟨connection,present⟩,fun finished => ?_,?_,?_,?_⟩
      · have more : party.used + (connection.segment socket (TcpFlags.ACK.or .PSH) payload).sequence_len.toNat =
            2 + (party.sent ++ payload).length := finished.2
        rw [length,size,List.length_append] at more
        omega
      · simp only [TcpConnection.send,length,size]
        rw [sends.sends connection present,UInt32.ofNat_add,UInt32.add_assoc]
      · intro waits pending
        simp only [TcpConnection.send,length,if_pos occupies] at pending
        cases pending
        exact numbered _ rfl (by simp only [length,size]) rfl
      · intro none
        simp only [TcpConnection.send,length,if_pos occupies] at none
        cases none
  · refine takes.receiver_changes rfl rfl takes.drained (fun alone => absurd (joined.symm.trans alone) (by simp)) ?_
    rintro _ ⟨⟩
    refine ⟨connection,present,rfl,rfl,takes.buffered connection present,takes.halves connection present,id,
      fun alone => absurd (joined.symm.trans alone) (by simp),fun waits pending => ?_⟩
    simp only [TcpConnection.send,length,if_pos occupies] at pending
    cases pending
    exact covers
  · rintro _ ⟨⟩ -
    exact numbered _ rfl (by simp only [length,size]) rfl
  · rintro _ ⟨⟩ -
    exact covers

theorem close_both (sends : Half mine party peer forth back) (takes : Half yours peer party back forth)
    (once : party.opened ≤ 1) : Both mine yours peer forth back (party.close socket now) := by
  rcases party.close_cases socket now with same | ⟨connection,state,present,free,either,closed⟩
  · rw [same]
    exact both_unchanged sends takes
  rw [closed]
  have opened := sends.opened_once once present
  have writable : connection.writable := by
    rcases either with ⟨state,-⟩ | ⟨state,-⟩ <;> simp [TcpConnection.writable,state]
  have count : party.used = 1 + party.sent.length :=
    (sends.counted opened).resolve_right (fun finished => sends.finished finished connection present writable)
  have one : ∀ connection : TcpConnection, (connection.segment socket (TcpFlags.ACK.or .FIN) []).sequence_len = 1 := by
    intro connection
    have flags : (TcpFlags.ACK.or .FIN).contains .SYN = false ∧ (TcpFlags.ACK.or .FIN).contains .FIN = true := by decide
    simp [TcpSegment.sequence_len,flags]
  have occupies : (1 : UInt32) ≠ 0 := by decide
  have joined := joined_of_state takes present (by rcases either with ⟨state,-⟩ | ⟨state,-⟩ <;> simp [state])
    (by rcases either with ⟨state,-⟩ | ⟨state,-⟩ <;> simp [state])
  have covers := takes.segment_covers present joined socket (TcpFlags.ACK.or .FIN) []
  have numbered : ∀ later : Party, later.opened = party.opened → later.used = party.used + 1 →
      later.sent = party.sent → Numbered mine later (connection.segment socket (TcpFlags.ACK.or .FIN) []) := by
    intro later opens uses all
    refine ⟨party.used,sends.sends connection present,opens.trans opened,by omega,fun syn => ?_,
      fun _ => ⟨by omega,List.nil_prefix,fun _ => ⟨rfl,by rw [all]; exact count,opens.trans opened,by rw [all]; omega⟩⟩⟩
    rw [TcpConnection.segment_flags] at syn
    exact absurd syn (by decide)
  refine ⟨?_,?_,?_,?_⟩
  · refine sends.sender_changes ⟨rfl,?_,List.prefix_rfl,fun finished => ?_⟩ rfl (fun missing => ?_)
      (fun _ => .inr ⟨opened,?_⟩) ?_
    · exact Nat.le_add_right _ _
    · exact absurd writable (sends.finished finished connection present)
    · rw [present] at missing
      cases missing
    · rw [one]
      show party.used + 1 = 2 + party.sent.length
      omega
    · rintro _ ⟨⟩
      refine ⟨⟨connection,present⟩,fun _ => ?_,?_,?_,?_⟩
      · rcases either with ⟨-,rfl⟩ | ⟨-,rfl⟩ <;> simp [TcpConnection.writable,TcpConnection.send]
      · simp only [TcpConnection.send,one]
        rw [sends.sends connection present,UInt32.toNat_one,UInt32.ofNat_add,UInt32.add_assoc]
        rfl
      · intro waits pending
        simp only [TcpConnection.send,one,if_pos occupies] at pending
        cases pending
        exact numbered _ rfl (by rw [one]; rfl) rfl
      · intro none
        simp only [TcpConnection.send,one,if_pos occupies] at none
        cases none
  · refine takes.receiver_changes rfl rfl takes.drained (fun alone => absurd (joined.symm.trans alone) (by simp)) ?_
    rintro _ ⟨⟩
    refine ⟨connection,present,rfl,rfl,takes.buffered connection present,fun half => ?_,fun asleep => ?_,
      fun alone => absurd (joined.symm.trans alone) (by simp),fun waits pending => ?_⟩
    · rcases either with ⟨-,rfl⟩ | ⟨before,-⟩
      · rcases half with half | half <;> cases half
      · exact takes.halves connection present (.inl before)
    · rcases either with ⟨-,rfl⟩ | ⟨-,rfl⟩ <;> cases asleep
    · simp only [TcpConnection.send,one,if_pos occupies] at pending
      cases pending
      exact covers
  · rintro _ ⟨⟩ -
    exact numbered _ rfl (by rw [one]; rfl) rfl
  · rintro _ ⟨⟩ -
    exact covers

theorem drain_both (sends : Half mine party peer forth back) (takes : Half yours peer party back forth)
    (once : party.opened ≤ 1) (joined : party.endpoint.connection ≠ none → party.joined = true) :
    Both mine yours peer forth back (party.drain socket) := by
  rcases party.drain_cases socket with same | ⟨connection,present,drained⟩
  · rw [same]
    exact both_unchanged sends takes
  rw [drained]
  have opened := sends.opened_once once present
  have met := joined (by simp [present])
  have buffer := takes.buffered connection present
  have sender : Half mine { party with
      endpoint := { party.endpoint with connection := some { connection with received := [] } },
      read := party.read ++ connection.received } peer forth back := by
    refine sends.sender_changes ⟨rfl,le_rfl,List.prefix_rfl,fun _ => ⟨rfl,rfl⟩⟩ rfl (fun _ => ⟨rfl,rfl,rfl⟩) sends.counted ?_
    rintro _ ⟨⟩
    exact ⟨⟨connection,present⟩,fun finished => sends.finished finished connection present,
      sends.sends connection present,fun waits pending => (sends.pending connection present waits pending).grows
        ⟨rfl,le_rfl,List.prefix_rfl,fun _ => ⟨rfl,rfl⟩⟩,sends.settled connection present⟩
  have receiver : Half yours peer { party with
      endpoint := { party.endpoint with connection := some { connection with received := [] } },
      read := party.read ++ connection.received } back forth := by
    refine takes.receiver_changes rfl rfl (by rw [buffer]) (fun alone => absurd (met.symm.trans alone) (by simp)) ?_
    rintro _ ⟨⟩
    refine ⟨connection,present,rfl,rfl,?_,takes.halves connection present,id,
      fun alone => absurd (met.symm.trans alone) (by simp),takes.promised connection present⟩
    rw [List.append_nil]
    exact buffer
  refine ⟨sender,receiver,?_,?_⟩
  · rintro _ ⟨⟩ -
    exact sender.acknowledgment_numbered rfl opened socket
  · rintro _ ⟨⟩ -
    exact receiver.segment_covers rfl met socket .ACK []

theorem tick_both (sends : Half mine party peer forth back) (takes : Half yours peer party back forth) :
    Both mine yours peer forth back (party.tick now) := by
  rcases party.tick_cases now with same | ⟨connection,present,removed | kept⟩
  · rw [same]
    exact both_unchanged sends takes
  · rw [removed]
    refine ⟨?_,?_,fun _ none => (by cases none),fun _ none => (by cases none)⟩
    · refine sends.sender_changes ⟨rfl,le_rfl,List.prefix_rfl,fun _ => ⟨rfl,rfl⟩⟩ rfl (fun _ => ⟨rfl,rfl,rfl⟩) sends.counted ?_
      rintro _ ⟨⟩
    · refine takes.receiver_changes rfl rfl takes.drained (fun alone => (takes.apart alone).2.1) ?_
      rintro _ ⟨⟩
  · rw [kept]
    have grows : Grows party { party with
        endpoint := { party.endpoint with connection := some (connection.retransmit now).1 } } :=
      ⟨rfl,le_rfl,List.prefix_rfl,fun _ => ⟨rfl,rfl⟩⟩
    obtain ⟨next,expects,closed,received,state,free,pending,again⟩ := @TcpConnection.retransmit_changes connection now
    refine ⟨?_,?_,?_,?_⟩
    · refine sends.sender_changes grows rfl (fun _ => ⟨rfl,rfl,rfl⟩) sends.counted ?_
      rintro _ ⟨⟩
      refine ⟨⟨connection,present⟩,fun finished writable => ?_,next.trans (sends.sends connection present),?_,?_⟩
      · rcases state with same | gone
        · unfold TcpConnection.writable at writable
          rw [same] at writable
          exact sends.finished finished connection present writable
        · simp [TcpConnection.writable,gone] at writable
      · intro waits held
        obtain ⟨before,was,same⟩ := pending waits held
        rw [same]
        exact (sends.pending connection present before was).grows grows
      · intro none live
        rcases state with same | gone
        · rw [same] at live
          exact sends.settled connection present (free none) live
        · exact absurd gone live
    · refine takes.receiver_changes rfl rfl takes.drained (fun alone => (takes.apart alone).2.1) ?_
      rintro _ ⟨⟩
      refine ⟨connection,present,expects,closed,?_,fun half => ?_,fun asleep => ?_,fun alone => ?_,fun waits held => ?_⟩
      · rw [received]
        exact takes.buffered connection present
      · rcases state with same | gone
        · rw [same] at half
          exact takes.halves connection present half
        · rw [gone] at half
          rcases half with half | half <;> cases half
      · rcases state with same | gone
        · exact same.symm.trans asleep
        · rw [gone] at asleep
          cases asleep
      · obtain ⟨asleep,-,nothing⟩ := (takes.apart alone).2.2 connection present
        refine ⟨?_,received.trans nothing⟩
        rcases state with same | gone
        · rw [same]
          exact asleep
        · exact .inr gone
      · obtain ⟨before,was,same⟩ := pending waits held
        rw [same]
        exact takes.promised connection present before was
    · intro segment emitted _
      obtain ⟨before,was,same⟩ := again segment emitted
      rw [← same]
      exact (sends.pending connection present before was).grows grows
    · intro segment emitted _
      obtain ⟨before,was,same⟩ := again segment emitted
      rw [← same]
      exact (takes.promised connection present before was).grows (.refl peer) List.prefix_rfl takes.arrived

/-- A connection that takes a segment, as the writer of its own stream. -/
theorem receive_sender (sends : Half mine party peer forth back) (once : party.opened ≤ 1) (few : party.used < 2 ^ 32)
    (arrives : back segment) {connection : TcpConnection}
    (present : party.endpoint.connection = some connection) {later : Party} {after : TcpConnection}
    (now : later.endpoint.connection = some after) (supply : later.endpoint.next_sequence = party.endpoint.next_sequence)
    (counts : later.opened = party.opened ∧ later.used = party.used ∧ later.sent = party.sent)
    (changes : TcpConnection.Sends connection segment after) : Half mine later peer forth back := by
  have opened := sends.opened_once once present
  obtain ⟨opens,uses,all⟩ := counts
  have grows : Grows party later := ⟨opens,uses.ge,by rw [all],fun _ => ⟨all,uses⟩⟩
  obtain ⟨next,outstanding,writes,closed⟩ := changes
  refine sends.sender_changes grows supply (fun missing => ?_) ?_ ?_
  · rw [present] at missing
    cases missing
  · intro _
    rcases sends.counted opened with count | finished
    · exact .inl (by rw [uses,all]; exact count)
    · exact .inr (grows.finished finished)
  · intro held same
    rw [now] at same
    cases same
    refine ⟨⟨connection,present⟩,fun finished writable => ?_,?_,?_,fun free live => ?_⟩
    · refine sends.finished ⟨opened,?_⟩ connection present (writes writable)
      rw [← uses,← all]
      exact finished.2
    · rw [next,uses]
      exact sends.sends connection present
    · intro waits pending
      rcases outstanding with same | ⟨none,-⟩
      · rw [same] at pending
        exact (sends.pending connection present waits pending).grows grows
      · rw [none] at pending
        cases pending
    · rw [all]
      rcases outstanding with same | ⟨-,gone | ⟨acknowledged,flagged,unset⟩⟩
      · exact sends.settled connection present (same.symm.trans free) (closed live)
      · exact absurd gone live
      · refine sends.acknowledged_all few opened (sends.covered segment arrives unset) flagged ?_
        rw [acknowledged]
        exact sends.sends connection present

/-- The same connection as the reader of the stream of its peer. -/
theorem receive_receiver (takes : Half yours peer party back forth) (peerFew : peer.used < 2 ^ 32) (arrives : back segment)
    {connection : TcpConnection} (present : party.endpoint.connection = some connection) {later : Party}
    {after : TcpConnection} (now : later.endpoint.connection = some after) (read : later.read = party.read)
    (stream : later.stream = party.stream ++ after.received.drop connection.received.length)
    (joined : later.joined = (party.joined || (connection.state = .SynSent && after.state = .Established)))
    (changes : TcpConnection.Sends connection segment after) (steps : TcpConnection.Takes connection segment after) :
    Half yours peer later back forth := by
  have promised : ∀ waits ∈ after.outstanding, waits ∈ connection.outstanding := by
    intro waits pending
    rcases changes.outstanding with same | ⟨none,-⟩
    · rwa [same] at pending
    · rw [none] at pending
      cases pending
  cases steps with
  | same next closed received state =>
    have still : later.stream = party.stream := by
      rw [stream,received,List.drop_length,List.append_nil]
    have met : later.joined = party.joined := by
      rw [joined]
      by_cases asleep : connection.state = .SynSent
      · have quiet : after.state ≠ .Established := by
          rcases state with same | gone | ⟨-,other⟩ | ⟨-,other⟩
          · simp [same,asleep]
          · simp [gone]
          · exact absurd asleep other
          · rw [asleep] at other
            cases other
        simp [quiet]
      · simp [asleep]
    refine takes.receiver_changes met still (by rw [read]; exact takes.drained)
      (fun alone => by rw [read]; exact (takes.apart alone).2.1) ?_
    intro held same
    rw [now] at same
    cases same
    refine ⟨connection,present,next,closed,?_,fun half => ?_,fun asleep => ?_,fun alone => ?_,fun waits pending =>
      takes.promised connection present waits (promised waits pending)⟩
    · rw [read,received]
      exact takes.buffered connection present
    · rcases state with same | gone | ⟨waits,-⟩ | ⟨established,-⟩
      · rw [same] at half
        exact takes.halves connection present half
      all_goals
        simp_all
    · rcases state with same | gone | ⟨waits,-⟩ | ⟨established,-⟩
      · exact same.symm.trans asleep
      all_goals
        simp_all
    · obtain ⟨asleep,-,nothing⟩ := (takes.apart alone).2.2 connection present
      refine ⟨?_,received.trans nothing⟩
      rcases state with same | gone | ⟨-,other⟩ | ⟨-,other⟩
      · rw [same]
        exact asleep
      · exact .inr gone
      · by_cases dead : after.state = .Closed
        · exact .inr dead
        · exact absurd (asleep.resolve_left other) (changes.closed dead)
      · rw [other] at asleep
        rcases asleep with state | state <;> cases state
  | opened state flagged unset next closed received established free =>
    have alone : party.joined = false := by
      by_contra met
      rw [Bool.not_eq_false] at met
      exact takes.awake met connection present state
    obtain ⟨-,-,asleep⟩ := takes.apart alone
    obtain ⟨-,unclosed,nothing⟩ := asleep connection present
    refine takes.receiver_joins alone (takes.numbered segment arrives unset) flagged next (closed.trans unclosed)
      (received.trans nothing) (by simp [established]) (by simp [established]) (fun waits pending => ?_) now ?_ read ?_
    · rw [free] at pending
      cases pending
    · simp [joined,state,established]
    · rw [stream,received,List.drop_length,List.append_nil]
  | taken live state unset expected unclosed next received closed halves last =>
    have met := joined_of_state takes present live.2.2 live.1
    refine takes.receiver_takes peerFew present met (takes.numbered segment arrives unset) expected unclosed next received
      closed (fun half => ?_) state promised now (by simp [joined,met]) read ?_
    · have open_ : ∀ state : TcpState, state = .CloseWait ∨ state = .LastAck → connection.state ≠ state := by
        intro state either same
        have ended := takes.halves connection present (by rw [same]; exact either)
        rw [unclosed] at ended
        cases ended
      rcases half with half | half
      · exact (halves half).resolve_right (open_ _ (.inl rfl))
      · exact absurd (last half) (open_ _ (.inr rfl))
    · rw [stream,received,List.drop_left]

/-- A listener that takes the first SYN. -/
theorem listen_both (sends : Half mine party peer forth back) (takes : Half yours peer party back forth)
    (unopened : party.opened = 0) (numbered : Numbered yours peer segment) (flagged : segment.flags.contains .SYN = true)
    {later : Party} {after : TcpConnection}
    (created : after = ((TcpConnection.listening (party.endpoint.next_sequence + 64000) segment now).send socket
      (TcpFlags.SYN.or .ACK) [] now).1)
    (present : later.endpoint.connection = some after)
    (counts : later.opened = 1 ∧ later.used = 1 ∧ later.sent = party.sent ∧ later.joined = true)
    (reads : later.read = party.read ∧ later.stream = party.stream) :
    Both mine yours peer forth back (later,some
      ((TcpConnection.listening (party.endpoint.next_sequence + 64000) segment now).segment socket
        (TcpFlags.SYN.or .ACK) [])) := by
  obtain ⟨-,unsent,-,begins,alone⟩ := sends.unopened unopened
  obtain ⟨opens,uses,all,met⟩ := counts
  have flags : (TcpFlags.SYN.or .ACK).contains .SYN = true ∧ (TcpFlags.SYN.or .ACK).contains .FIN = false := by decide
  have apart : peer.joined = false := by
    by_contra joined
    have one := sends.meets (by simpa using joined)
    omega
  obtain ⟨empty,unread,asleep⟩ := sends.apart apart
  have one : ((TcpConnection.listening (party.endpoint.next_sequence + 64000) segment now).segment socket
      (TcpFlags.SYN.or .ACK) []).sequence_len = 1 := by
    simp [TcpSegment.sequence_len,flags]
  have occupies : (1 : UInt32) ≠ 0 := by decide
  have outstanding : ∀ waits ∈ after.outstanding, waits.segment =
      (TcpConnection.listening (party.endpoint.next_sequence + 64000) segment now).segment socket
        (TcpFlags.SYN.or .ACK) [] := by
    intro waits pending
    rw [created] at pending
    simp only [TcpConnection.send,one,if_pos occupies] at pending
    cases pending
    rfl
  have ours : Numbered mine later ((TcpConnection.listening (party.endpoint.next_sequence + 64000) segment now).segment socket
      (TcpFlags.SYN.or .ACK) []) := by
    refine ⟨0,?_,opens,Nat.zero_le _,fun _ => ⟨rfl,rfl,flags.2⟩,fun plain => ?_⟩
    · simp [TcpConnection.listening,TcpConnection.new,begins]
    · rw [TcpConnection.segment_flags,flags.1] at plain
      cases plain
  have covers : ∀ segment, Covers mine party peer segment → Covers mine later peer segment := by
    intro segment covers acknowledges
    obtain ⟨count,place,some | ⟨-,finished,-⟩⟩ := covers acknowledges
    · exact ⟨count,place,.inl some⟩
    · have one := finished.1
      omega
  have receiver : Half yours peer later back forth := by
    refine takes.receiver_joins alone numbered flagged ?_ ?_ ?_ ?_ ?_ (fun waits pending => ?_) present met reads.1 reads.2
    · rw [created]
      rfl
    · rw [created]
      rfl
    · rw [created]
      rfl
    · rw [created]
      simp [TcpConnection.send,TcpConnection.listening]
    · rw [created]
      simp [TcpConnection.send,TcpConnection.listening]
    · rw [outstanding waits pending]
      rfl
  refine ⟨⟨?_,?_,?_,?_,?_,?_,?_,?_,?_,?_,?_,?_,?_,?_,?_,?_,?_,?_⟩,receiver,?_,?_⟩
  · intro none
    simp only at none
    omega
  · intro _
    refine .inl ?_
    simp only
    rw [uses,all,unsent]
    rfl
  · rintro ⟨-,two⟩
    simp only at two
    omega
  · intro held same
    rw [present] at same
    cases same
    rw [created,uses]
    simp only [TcpConnection.send,one]
    simp [TcpConnection.listening,TcpConnection.new,begins]
  · intro held same waits pending
    rw [present] at same
    cases same
    rw [outstanding waits pending]
    exact ours
  · intro held same free
    rw [present] at same
    cases same
    rw [created] at free
    simp only [TcpConnection.send,one,if_pos occupies] at free
    cases free
  · exact fun _ => opens
  · intro joined
    rw [apart] at joined
    cases joined
  · intro joined
    rw [apart] at joined
    cases joined
  · exact fun _ => ⟨empty,unread,asleep⟩
  · rw [empty]
    exact List.nil_prefix
  · intro held same ended
    rw [(asleep held same).2.1] at ended
    cases ended
  · exact sends.halves
  · exact sends.buffered
  · exact sends.drained
  · intro other sent unset
    obtain ⟨-,-,opened,-⟩ := sends.numbered other sent unset
    omega
  · exact fun other sent unset => covers other (sends.covered other sent unset)
  · exact fun held same waits pending => covers _ (sends.promised held same waits pending)
  · rintro _ ⟨⟩ -
    exact ours
  · rintro _ ⟨⟩ -
    intro _
    obtain ⟨offset,place,-,-,syn,-⟩ := numbered
    refine ⟨1,?_,.inl (by omega)⟩
    rw [(syn flagged).1] at place
    simp [TcpConnection.listening,TcpConnection.new,place]

theorem receive_both (sends : Half mine party peer forth back) (takes : Half yours peer party back forth)
    (once : (party.receive socket segment now).1.opened ≤ 1) (few : party.used < 2 ^ 32) (peerFew : peer.used < 2 ^ 32)
    (arrives : back segment) : Both mine yours peer forth back (party.receive socket segment now) := by
  cases present : party.endpoint.connection with
  | none =>
    rcases @Party.receive_none party socket now segment present with ⟨-,same⟩ | ⟨unset,begins,-,same⟩ | ⟨-,reset,⟨flagged,-⟩,same⟩
    · rw [same]
      exact both_unchanged sends takes
    · rw [same] at once ⊢
      have unopened : party.opened = 0 := by
        simp only at once
        omega
      obtain ⟨used,-⟩ := sends.unopened unopened
      refine listen_both sends takes unopened (takes.numbered segment arrives unset) ?_ rfl rfl
        ⟨?_,?_,rfl,rfl⟩ ⟨rfl,rfl⟩
      · rw [begins]
        decide
      · simp only [unopened]
      · simp only [used]
    · rw [same]
      refine ⟨sends,takes,?_,?_⟩
      all_goals
        rintro _ ⟨⟩ unset
        rw [flagged] at unset
        cases unset
  | some connection =>
    have changes := @TcpConnection.receive_sends connection socket segment now
      (fun last => takes.halves connection present (.inr last))
    have steps := @TcpConnection.receive_takes connection socket segment now
    have answers := @TcpConnection.receive_answer connection socket segment now
    rw [Party.receive_some present] at once ⊢
    generalize connection.receive socket segment now = outcome at changes steps answers once
    have opened := sends.opened_once once present
    have grows : Grows party { party with
        endpoint := { party.endpoint with connection := some outcome.1 },
        stream := party.stream ++ outcome.1.received.drop connection.received.length,
        joined := party.joined || (connection.state = .SynSent && outcome.1.state = .Established) } :=
      ⟨rfl,le_rfl,List.prefix_rfl,fun _ => ⟨rfl,rfl⟩⟩
    have sender : Half mine { party with
        endpoint := { party.endpoint with connection := some outcome.1 },
        stream := party.stream ++ outcome.1.received.drop connection.received.length,
        joined := party.joined || (connection.state = .SynSent && outcome.1.state = .Established) } peer forth back :=
      receive_sender sends once few arrives present rfl rfl ⟨rfl,rfl,rfl⟩ changes
    have receiver : Half yours peer { party with
        endpoint := { party.endpoint with connection := some outcome.1 },
        stream := party.stream ++ outcome.1.received.drop connection.received.length,
        joined := party.joined || (connection.state = .SynSent && outcome.1.state = .Established) } back forth :=
      receive_receiver takes peerFew arrives present rfl rfl rfl rfl changes steps
    have stream : party.stream <+: party.stream ++ outcome.1.received.drop connection.received.length :=
      List.prefix_append _ _
    refine ⟨sender,receiver,?_,?_⟩
    · intro answer answered _
      simp only at answered
      rw [answered] at answers
      cases answers with
      | acknowledges joined alive => exact sender.acknowledgment_numbered rfl opened socket
      | repeats waits same joined => exact (sends.pending connection present _ waits).grows grows
    · intro answer answered _
      simp only at answered
      rw [answered] at answers
      cases answers with
      | acknowledges joined alive => exact receiver.segment_covers rfl (joined_of_state receiver rfl joined alive) socket _ _
      | repeats waits same joined =>
        exact (takes.promised connection present _ waits).grows (.refl peer) stream receiver.arrived

end Calls

/-! ### Whole runs -/

namespace Network

variable {sockets : Side → TcpSocket} {network : Network} {sequence : Side → UInt32}

/-- Both directions of the stream. -/
def Streaming (sequence : Side → UInt32) (network : Network) : Prop :=
  ∀ side, Half (sequence side + 64000) (network.party side) (network.party side.other)
    (fun segment => (side.other,segment) ∈ network.flight) (fun segment => (side,segment) ∈ network.flight)

/-- A connection is read only after it has taken the SYN of its peer. -/
def Greeted (network : Network) : Operation → Prop
  | .read side => network.connection side ≠ none → (network.party side).joined = true
  | _ => True

/-- A run in which all reads are like that. -/
def GreetedAll (sockets : Side → TcpSocket) : Network → List Operation → Prop
  | _,[] => True
  | network,operation :: rest => network.Greeted operation ∧ GreetedAll sockets (network.apply sockets operation) rest

theorem party_put_self (network : Network) (side : Side) (called : Party × Option TcpSegment) :
    (network.put side called).party side = called.1 := by
  simp [put]

theorem party_put_other (network : Network) (side : Side) (called : Party × Option TcpSegment) :
    (network.put side called).party side.other = network.party side.other := by
  have differs : side.other ≠ side := by cases side <;> decide
  simp [put,differs]

theorem put_streaming {side : Side} {called : Party × Option TcpSegment}
    (both : Both (sequence side + 64000) (sequence side.other + 64000) (network.party side.other)
      (fun segment => (side.other,segment) ∈ network.flight) (fun segment => (side,segment) ∈ network.flight) called) :
    (network.put side called).Streaming sequence := by
  have differs : side ≠ side.other := by cases side <;> decide
  have split : ∀ place segment, (place,segment) ∈ (network.put side called).flight →
      (place,segment) ∈ network.flight ∨ place = side.other ∧ called.2 = some segment := by
    intro place segment member
    rcases List.mem_append.mp member with old | new
    · exact .inl old
    · obtain ⟨answer,answered,same⟩ := List.mem_map.mp new
      cases same
      exact .inr ⟨rfl,Option.mem_toList.mp answered⟩
  intro place
  rcases eq_or_other place side with rfl | rfl
  · rw [party_put_self,party_put_other]
    refine both.sender.flight_changes (fun segment sent unset => ?_) (fun segment sent unset => ?_)
    · rcases split _ segment sent with old | ⟨-,new⟩
      · exact .inl old
      · exact .inr (both.numbered segment new unset)
    · rcases split _ segment sent with old | ⟨same,-⟩
      · exact .inl old
      · exact absurd same differs
  · rw [other_other,party_put_self,party_put_other]
    refine both.receiver.flight_changes (fun segment sent unset => ?_) (fun segment sent unset => ?_)
    · rcases split _ segment sent with old | ⟨same,-⟩
      · exact .inl old
      · exact absurd same differs
    · rcases split _ segment sent with old | ⟨-,new⟩
      · exact .inl old
      · exact .inr (both.covers segment new unset)

/-- No call takes sequence numbers or connections back. -/
theorem apply_grows (network : Network) (operation : Operation) (side : Side) :
    (network.party side).used ≤ ((network.apply sockets operation).party side).used ∧
      (network.party side).opened ≤ ((network.apply sockets operation).party side).opened := by
  have puts : ∀ (network : Network) (place : Side) (called : Party × Option TcpSegment),
      (network.party place).used ≤ called.1.used ∧ (network.party place).opened ≤ called.1.opened →
      (network.party side).used ≤ ((network.put place called).party side).used ∧
        (network.party side).opened ≤ ((network.put place called).party side).opened := by
    intro network place called grows
    rcases eq_or_other side place with rfl | rfl
    · rw [party_put_self]
      exact grows
    · rw [party_put_other]
      exact ⟨le_rfl,le_rfl⟩
  cases operation with
  | send place payload now =>
    refine puts network place _ ?_
    rcases (network.party place).send_cases (sockets place) payload now with same | ⟨connection,-,-,-,-,-,-,sent⟩
    · rw [same]
      exact ⟨le_rfl,le_rfl⟩
    · rw [sent]
      exact ⟨Nat.le_add_right _ _,le_rfl⟩
  | close place now =>
    refine puts network place _ ?_
    rcases (network.party place).close_cases (sockets place) now with same | ⟨connection,state,-,-,-,closed⟩
    · rw [same]
      exact ⟨le_rfl,le_rfl⟩
    · rw [closed]
      exact ⟨Nat.le_add_right _ _,le_rfl⟩
  | read place =>
    refine puts network place _ ?_
    rcases (network.party place).drain_cases (sockets place) with same | ⟨connection,-,drained⟩
    · rw [same]
      exact ⟨le_rfl,le_rfl⟩
    · rw [drained]
      exact ⟨le_rfl,le_rfl⟩
  | tick place now =>
    refine puts network place _ ?_
    exact ⟨le_rfl,le_rfl⟩
  | deliver index now =>
    simp only [apply]
    split
    · exact ⟨le_rfl,le_rfl⟩
    · rename_i place segment found
      refine puts { network with flight := network.flight.eraseIdx index } place _ ?_
      cases present : (network.party place).endpoint.connection with
      | some connection =>
        rw [Party.receive_some present]
        exact ⟨le_rfl,le_rfl⟩
      | none =>
        rcases @Party.receive_none (network.party place) (sockets place) now segment present with
          ⟨-,same⟩ | ⟨-,-,-,same⟩ | ⟨-,reset,-,same⟩
        · rw [same]
          exact ⟨le_rfl,le_rfl⟩
        · rw [same]
          exact ⟨Nat.le_succ _,Nat.le_succ _⟩
        · rw [same]
          exact ⟨le_rfl,le_rfl⟩
  | lose index => exact ⟨le_rfl,le_rfl⟩
  | duplicate index => exact ⟨le_rfl,le_rfl⟩

/-- Fewer than `2 ^ 32` sequence numbers are used, by one connection on each side. -/
def Few (network : Network) : Prop :=
  ∀ side, (network.party side).used < 2 ^ 32 ∧ (network.party side).opened ≤ 1

theorem Few.before {operation : Operation} (few : (network.apply sockets operation).Few) : network.Few := by
  intro side
  obtain ⟨used,opened⟩ := @apply_grows sockets network operation side
  exact ⟨lt_of_le_of_lt used (few side).1,opened.trans (few side).2⟩

theorem flight_streaming {network : Network} (streaming : network.Streaming sequence) {flight : List (Side × TcpSegment)}
    (kept : ∀ packet ∈ flight, packet ∈ network.flight) : (Network.mk network.party flight).Streaming sequence := fun side =>
  (streaming side).flight_changes (fun _ sent _ => .inl (kept _ sent)) (fun _ sent _ => .inl (kept _ sent))

/-- One operation keeps both directions. -/
theorem apply_streaming (streaming : network.Streaming sequence) {operation : Operation}
    (few : (network.apply sockets operation).Few) (greeted : network.Greeted operation) :
    (network.apply sockets operation).Streaming sequence := by
  have before := few.before
  have takes : ∀ (network : Network), network.Streaming sequence → ∀ side, Half (sequence side.other + 64000)
      (network.party side.other) (network.party side) (fun segment => (side,segment) ∈ network.flight)
        (fun segment => (side.other,segment) ∈ network.flight) := by
    intro network streaming side
    have other := streaming side.other
    rwa [other_other] at other
  cases operation with
  | send side payload now => exact put_streaming (send_both (streaming side) (takes network streaming side) (before side).2 payload)
  | close side now => exact put_streaming (close_both (streaming side) (takes network streaming side) (before side).2)
  | read side =>
    exact put_streaming (drain_both (streaming side) (takes network streaming side) (before side).2 greeted)
  | tick side now => exact put_streaming (tick_both (streaming side) (takes network streaming side))
  | deliver index now =>
    simp only [apply] at few ⊢
    split
    · exact streaming
    · rename_i side segment found
      simp only [found] at few
      have arrives : (side,segment) ∈ network.flight := List.mem_of_getElem? found
      have once := (few side).2
      rw [party_put_self] at once
      have both := put_streaming (receive_both (streaming side) (takes network streaming side) once (before side).1
        (before side.other).1 arrives)
      refine flight_streaming both (fun packet member => ?_)
      rcases List.mem_append.mp member with old | new
      · exact List.mem_append_left _ (List.mem_of_mem_eraseIdx old)
      · exact List.mem_append_right _ new
  | lose index => exact flight_streaming streaming (fun _ member => List.mem_of_mem_eraseIdx member)
  | duplicate index =>
    refine flight_streaming streaming (fun packet member => ?_)
    rcases List.mem_append.mp member with old | again
    · exact old
    · exact List.mem_of_getElem? (Option.mem_toList.mp again)

theorem initial_streaming (sockets : Side → TcpSocket) (sequence : Side → UInt32) (start : SimTime) :
    (initial sockets sequence start).Streaming sequence := by
  have flags : TcpFlags.SYN.contains .SYN = true ∧ TcpFlags.SYN.contains .FIN = false ∧
      TcpFlags.SYN.contains .ACK = false := by decide
  let opening : TcpConnection := { TcpConnection.new (sequence .active + 64000) start with state := .SynSent }
  have one : (opening.segment (sockets .active) .SYN []).sequence_len = 1 := by
    simp [TcpSegment.sequence_len,flags]
  have occupies : (1 : UInt32) ≠ 0 := by decide
  have active : (initial sockets sequence start).party .active =
      ⟨⟨some (opening.send (sockets .active) .SYN [] start).1,false,sequence .active + 64000⟩,[],[],[],1,1,false⟩ := by
    have count : (0 + (opening.segment (sockets .active) .SYN []).sequence_len.toNat) = 1 := by
      rw [one]
      rfl
    have put : (initial sockets sequence start).party .active =
        ⟨⟨some (opening.send (sockets .active) .SYN [] start).1,false,sequence .active + 64000⟩,[],[],[],
          0 + (opening.segment (sockets .active) .SYN []).sequence_len.toNat,1,false⟩ := party_put_self _ _ _
    rw [put,count]
  have passive : (initial sockets sequence start).party .passive = idle true (sequence .passive) := rfl
  have flight : (initial sockets sequence start).flight = [(.passive,opening.segment (sockets .active) .SYN [])] := rfl
  have syn : Numbered (sequence .active + 64000) ((initial sockets sequence start).party .active)
      (opening.segment (sockets .active) .SYN []) := by
    rw [active]
    refine ⟨0,?_,rfl,Nat.zero_le _,fun _ => ⟨rfl,rfl,flags.2.1⟩,fun plain => ?_⟩
    · simp [opening,TcpConnection.new]
    · rw [TcpConnection.segment_flags,flags.1] at plain
      cases plain
  have silent : ∀ sender receiver : Party,
      Covers (sequence .passive + 64000) sender receiver (opening.segment (sockets .active) .SYN []) := by
    intro sender receiver acknowledges
    rw [TcpConnection.segment_flags,flags.2.2] at acknowledges
    cases acknowledges
  have outstanding : ∀ waits ∈ (opening.send (sockets .active) .SYN [] start).1.outstanding,
      waits.segment = opening.segment (sockets .active) .SYN [] := by
    intro waits pending
    simp only [TcpConnection.send,one,if_pos occupies] at pending
    cases pending
    rfl
  intro side
  cases side with
  | active =>
    rw [active] at syn ⊢
    simp only [Side.other,passive,flight]
    refine ⟨fun none => (by cases none),fun _ => .inl rfl,?_,?_,?_,?_,fun met => (by cases met),fun met => (by cases met),
      fun met => (by cases met),fun _ => ⟨rfl,rfl,?_⟩,List.nil_prefix,?_,?_,?_,List.prefix_rfl,?_,?_,?_⟩
    · rintro ⟨-,two⟩
      cases two
    · rintro _ ⟨⟩
      simp only [TcpConnection.send,one]
      simp [opening,TcpConnection.new]
    · rintro _ ⟨⟩ waits pending
      rw [outstanding waits pending]
      exact syn
    · rintro _ ⟨⟩ free
      simp only [TcpConnection.send,one,if_pos occupies] at free
      cases free
    · rintro _ ⟨⟩
    · rintro _ ⟨⟩
    · rintro _ ⟨⟩
    · rintro _ ⟨⟩
    · intro segment sent unset
      cases List.mem_singleton.mp sent
      exact syn
    · intro segment sent
      cases List.mem_singleton.mp sent
    · rintro _ ⟨⟩
  | passive =>
    simp only [Side.other,passive,flight]
    rw [active]
    refine ⟨fun _ => ⟨rfl,rfl,rfl,rfl,rfl⟩,fun one => (by cases one),?_,?_,?_,?_,fun met => (by cases met),
      fun met => (by cases met),fun met => (by cases met),fun _ => ⟨rfl,rfl,?_⟩,List.nil_prefix,?_,?_,?_,List.prefix_rfl,
      ?_,?_,?_⟩
    · rintro ⟨one,-⟩
      cases one
    · rintro _ ⟨⟩
    · rintro _ ⟨⟩
    · rintro _ ⟨⟩
    · rintro _ ⟨⟩
      exact ⟨.inl rfl,rfl,rfl⟩
    · rintro _ ⟨⟩ ended
      cases ended
    · rintro _ ⟨⟩ half
      rcases half with half | half <;> cases half
    · rintro _ ⟨⟩
      rfl
    · intro segment sent
      cases List.mem_singleton.mp sent
    · intro segment sent _
      cases List.mem_singleton.mp sent
      exact silent _ _
    · rintro _ ⟨⟩ waits pending
      rw [outstanding waits pending]
      exact silent _ _

theorem run_streaming (streaming : network.Streaming sequence) {operations : List Operation}
    (few : (operations.foldl (apply sockets) network).Few) (greeted : GreetedAll sockets network operations) :
    (operations.foldl (apply sockets) network).Streaming sequence := by
  have start : ∀ (operations : List Operation) (network : Network),
      (operations.foldl (apply sockets) network).Few → network.Few := by
    intro operations
    induction operations with
    | nil => exact fun network few => few
    | cons operation rest ih => exact fun network few => (ih _ few).before
  induction operations generalizing network with
  | nil => exact streaming
  | cons operation rest ih => exact ih (apply_streaming streaming (start rest _ few) greeted.1) few greeted.2

/-- What a side has read and still holds is a prefix of what its peer sent, and where
    nothing is outstanding all that was sent has been put in the stream of the peer. -/
def Intact (network : Network) : Prop :=
  ∀ side, (network.party side).read ++ (network.party side).buffer <+: (network.party side.other).sent ∧
    ∀ connection, network.connection side = some connection →
      (network.party side).read ++ connection.received = (network.party side).stream ∧
      (connection.state = .Established ∨ connection.state = .CloseWait ∨ connection.state = .FinWait →
        connection.outstanding = none → (network.party side).sent <+: (network.party side.other).stream)

/-- In a run without reads before the handshake the stream is intact, as long as fewer
    than `2 ^ 32` sequence numbers are used. -/
theorem stream_integrity (sequence : Side → UInt32) (start : SimTime) (operations : List Operation)
    (greeted : GreetedAll sockets (initial sockets sequence start) operations)
    (few : (run sockets sequence start operations).Few) : (run sockets sequence start operations).Intact := by
  have streaming : (run sockets sequence start operations).Streaming sequence :=
    run_streaming (initial_streaming sockets sequence start) few greeted
  intro side
  have sends := streaming side
  have takes := streaming side.other
  rw [other_other] at takes
  refine ⟨?_,fun connection present => ⟨takes.buffered connection present,fun state free => ?_⟩⟩
  · have buffer : ((run sockets sequence start operations).party side).buffer =
        (((run sockets sequence start operations).party side).endpoint.connection.map (·.received)).getD [] := rfl
    rw [buffer]
    cases present : ((run sockets sequence start operations).party side).endpoint.connection with
    | none =>
      simp only [Option.map_none,Option.getD_none,List.append_nil]
      exact takes.drained.trans takes.arrived
    | some connection =>
      simp only [Option.map_some,Option.getD_some]
      rw [takes.buffered connection present]
      exact takes.arrived
  · have live : connection.state ≠ .Closed := by
      rcases state with state | state | state <;> simp [state]
    rw [sends.settled connection present free live]

/-- Two bytes are written, delivered and read behind the handshake. -/
theorem stream_integrity_two_bytes : ∃ network : Network,
    (network.party .passive).read = [1,2] ∧ (network.party .active).sent = [1,2] ∧ network.Intact := by
  let operations : List Operation :=
    [.deliver 0 0,.deliver 0 0,.deliver 0 0,.send .active [1,2] 0,.deliver 0 0,.read .passive]
  refine ⟨run (Side.pair ⟨0x0a000001,49152,0x0a000002,179⟩ ⟨0x0a000002,179,0x0a000001,49152⟩) (fun _ => 0) 0 operations,
    by decide +kernel,by decide +kernel,?_⟩
  refine stream_integrity _ 0 operations ⟨trivial,trivial,trivial,trivial,trivial,fun _ => ?_,trivial⟩ ?_
  · decide +kernel
  · intro side
    cases side <;> decide +kernel

/-- The active side reads before the handshake, and the acknowledgment of nothing
    that this sends comes when the peer has just used its sequence number. -/
theorem stream_integrity_early_read :
    ¬ ∀ (sockets : Side → TcpSocket) (sequence : Side → UInt32) (start : SimTime) (operations : List Operation),
      (run sockets sequence start operations).Few → (run sockets sequence start operations).Intact := by
  intro intact
  let network := run (Side.pair ⟨0x0a000001,49152,0x0a000002,179⟩ ⟨0x0a000002,179,0x0a000001,49152⟩)
    (Side.pair 0 (0xffffffff - 511 - 64000)) 0
    [.read .active,.deliver 0 0,.deliver 1 0,.deliver 1 0,.send .passive (List.replicate 511 7) 0,.lose 1,.deliver 0 0]
  have few : network.Few := by
    intro side
    cases side <;> decide +kernel
  have lost := ((intact _ _ _ _ few) .passive).2 ((network.connection .passive).getD (.new 0 0)) (by decide +kernel)
  have kept := lost.2 (by decide +kernel) (by decide +kernel)
  exact absurd kept (by decide +kernel)

end Network
end Rios.Tcp
