import Rios.Device
import Rios.Queue

/-!
# TCP endpoints

The connections of one device, as far as they belong to one socket: the stream
itself, the listener that creates it, and the calls of applications, network and
timers. Segments stand for the packets that carry them.
-/

namespace Rios.Tcp
open Rios.Machine Rios.Device Rios.Queue

def RECEIVE_LIMIT : Nat := 65535
def MAX_PAYLOAD : Nat := 1200
def IDLE_US : UInt64 := 300000000
def TIME_WAIT_US : UInt64 := 120000000

/-- TCP control flags, combined using bitwise OR. -/
structure TcpFlags where
  bits : UInt8
deriving DecidableEq

namespace TcpFlags

def FIN : TcpFlags := ⟨1⟩
def SYN : TcpFlags := ⟨2⟩
def RST : TcpFlags := ⟨4⟩
def PSH : TcpFlags := ⟨8⟩
def ACK : TcpFlags := ⟨16⟩

def or (self other : TcpFlags) : TcpFlags := ⟨self.bits ||| other.bits⟩

/-- Whether every bit in `flags` is set. -/
def contains (self flags : TcpFlags) : Bool := self.bits &&& flags.bits == flags.bits

/-- A SYN-ACK has both flags. -/
theorem contains_both {self : TcpFlags} (both : self.contains (SYN.or ACK) = true) :
    self.contains SYN = true ∧ self.contains ACK = true := by
  have every : ∀ n < 256, TcpFlags.contains ⟨UInt8.ofNat n⟩ (SYN.or ACK) = true →
      TcpFlags.contains ⟨UInt8.ofNat n⟩ SYN = true ∧ TcpFlags.contains ⟨UInt8.ofNat n⟩ ACK = true := by decide +kernel
  have one := every self.bits.toNat self.bits.toNat_lt
  rw [UInt8.ofNat_toNat] at one
  exact one both

end TcpFlags

/-- An owned TCP segment. -/
structure TcpSegment where
  source_port : UInt16
  destination_port : UInt16
  sequence : UInt32
  acknowledgment : UInt32
  flags : TcpFlags
  window : UInt16
  options : List UInt8
  payload : List UInt8
deriving DecidableEq

/-- Sequence space consumed by payload and SYN/FIN flags. -/
def TcpSegment.sequence_len (self : TcpSegment) : UInt32 :=
  UInt32.ofNat self.payload.length + (if self.flags.contains .SYN then 1 else 0) + (if self.flags.contains .FIN then 1 else 0)

/-- Local and remote transport endpoints identifying a connection. -/
structure TcpSocket where
  local_address : Ipv4Addr
  local_port : UInt16
  remote_address : Ipv4Addr
  remote_port : UInt16
deriving DecidableEq

inductive TcpState where
  | Closed
  | SynSent
  | SynReceived
  | Established
  | FinWait
  | CloseWait
  | LastAck
  | TimeWait
deriving DecidableEq

/-- Rejected application operations. -/
inductive TcpError where
  | Missing
  | State
  | Busy
  | Capacity
deriving DecidableEq

structure Outstanding where
  segment : TcpSegment
  deadline : SimTime
  retries : UInt8
deriving DecidableEq

/-- One bounded stream, which sends one segment at a time. -/
structure TcpConnection where
  state : TcpState
  retransmissions : UInt64
  send_next : UInt32
  receive_next : UInt32
  peer_window : UInt16
  received : List UInt8
  outstanding : Option Outstanding
  last_activity : SimTime
  idle_timeout_us : Option UInt64
  time_wait_until : Option SimTime
  peer_closed : Bool
  passive : Bool
deriving DecidableEq

namespace TcpConnection

/-- Maximum next application write; zero means wait for state, ACK or peer window. -/
def send_capacity (self : TcpConnection) : Nat :=
  if ¬ (self.state = .Established ∨ self.state = .CloseWait) ∨ self.outstanding.isSome then 0
  else min MAX_PAYLOAD self.peer_window.toNat

def new (sequence : UInt32) (now : SimTime) : TcpConnection where
  state := .Closed
  retransmissions := 0
  send_next := sequence
  receive_next := 0
  peer_window := 65535
  received := []
  outstanding := none
  last_activity := now
  idle_timeout_us := some IDLE_US
  time_wait_until := none
  peer_closed := false
  passive := false

/-- The connection that a listener creates for a SYN. -/
def listening (sequence : UInt32) (segment : TcpSegment) (now : SimTime) : TcpConnection :=
  { new sequence now with
      state := .SynReceived, passive := true, receive_next := segment.sequence + 1, peer_window := segment.window }

def segment (self : TcpConnection) (socket : TcpSocket) (flags : TcpFlags) (payload : List UInt8) : TcpSegment where
  source_port := socket.local_port
  destination_port := socket.remote_port
  sequence := self.send_next
  acknowledgment := self.receive_next
  flags := flags
  window := UInt16.ofNat (RECEIVE_LIMIT - self.received.length)
  options := []
  payload := payload

section Fields

variable {self : TcpConnection} {socket : TcpSocket} {flags : TcpFlags} {payload : List UInt8}

@[simp] theorem segment_sequence : (self.segment socket flags payload).sequence = self.send_next := rfl
@[simp] theorem segment_acknowledgment : (self.segment socket flags payload).acknowledgment = self.receive_next := rfl
@[simp] theorem segment_flags : (self.segment socket flags payload).flags = flags := rfl
@[simp] theorem segment_payload : (self.segment socket flags payload).payload = payload := rfl

end Fields

def send (self : TcpConnection) (socket : TcpSocket) (flags : TcpFlags) (payload : List UInt8) (now : SimTime) :
    TcpConnection × TcpSegment :=
  let segment := self.segment socket flags payload
  ({ self with
      send_next := self.send_next + segment.sequence_len,
      outstanding :=
        if segment.sequence_len ≠ 0 then some ⟨segment,satAdd64 now 1000000,0⟩ else self.outstanding,
      last_activity := now },segment)

@[simp] theorem send_segment (self : TcpConnection) (socket : TcpSocket) (flags : TcpFlags) (payload : List UInt8)
    (now : SimTime) : (self.send socket flags payload now).2 = self.segment socket flags payload := rfl

def enter_time_wait (self : TcpConnection) (now : SimTime) : TcpConnection :=
  { self with state := .TimeWait, time_wait_until := some (satAdd64 now TIME_WAIT_US) }

/-- `receive`, where everything sent has been acknowledged. -/
def acknowledge (self : TcpConnection) (now : SimTime) : TcpConnection :=
  let connection := { self with outstanding := none }
  let connection := if connection.state = .SynReceived then { connection with state := .Established } else connection
  if connection.state = .FinWait ∧ connection.peer_closed then connection.enter_time_wait now else connection

/-- `receive`, where a FIN has come in sequence. -/
def finish (self : TcpConnection) (now : SimTime) : TcpConnection :=
  let connection := { self with receive_next := self.receive_next + 1, peer_closed := true }
  if connection.state = .FinWait then
    if connection.outstanding.isNone then connection.enter_time_wait now else connection
  else { connection with state := .CloseWait }

/-- `receive`, where a segment in sequence is noted, but not yet its payload. -/
def noted (self : TcpConnection) (segment : TcpSegment) (now : SimTime) : TcpConnection :=
  { self with last_activity := now, peer_window := segment.window }

/-- `receive`, where the payload is put in the buffer. -/
def extend (self : TcpConnection) (segment : TcpSegment) : TcpConnection :=
  { self with
      receive_next := self.receive_next + UInt32.ofNat segment.payload.length,
      received := self.received ++ segment.payload }

/-- `receive`, behind the acknowledgment of a segment in sequence. -/
def accept (self : TcpConnection) (socket : TcpSocket) (segment : TcpSegment) (now : SimTime) :
    TcpConnection × Option TcpSegment :=
  let connection := self.noted segment now
  if connection.peer_closed then (connection,none)
  else if RECEIVE_LIMIT < connection.received.length + segment.payload.length then
    (connection,some (connection.segment socket .ACK []))
  else
    let connection := connection.extend segment
    let fin := segment.flags.contains .FIN
    let connection := if fin then connection.finish now else connection
    (connection,if segment.payload ≠ [] ∨ fin then some (connection.segment socket .ACK []) else none)

def receive (self : TcpConnection) (socket : TcpSocket) (segment : TcpSegment) (now : SimTime) :
    TcpConnection × Option TcpSegment :=
  if self.state = .Closed then (self,none)
  else if segment.flags.contains .RST then
    let valid :=
      if self.state = .SynSent then segment.flags.contains .ACK && segment.acknowledgment == self.send_next
      else segment.sequence == self.receive_next
    (if valid then { self with state := .Closed, outstanding := none } else self,none)
  else if self.state = .TimeWait then
    -- re-ACK a retransmitted FIN or data, never a pure ACK
    let connection :=
      if segment.flags.contains .FIN ∧ segment.sequence + segment.sequence_len = self.receive_next then
        self.enter_time_wait now
      else self
    (connection,if segment.sequence_len ≠ 0 then some (connection.segment socket .ACK []) else none)
  else if self.state = .SynSent then
    if segment.flags.contains (TcpFlags.SYN.or .ACK) ∧ segment.acknowledgment = self.send_next then
      let connection := { self with
        receive_next := segment.sequence + 1, peer_window := segment.window, outstanding := none,
        state := .Established, last_activity := now }
      (connection,some (connection.segment socket .ACK []))
    else (self,none)
  else if self.state = .SynReceived ∧ segment.flags.contains .SYN ∧ segment.sequence + 1 = self.receive_next then
    (self,self.outstanding.map (·.segment))
  else if segment.sequence ≠ self.receive_next then (self,some (self.segment socket .ACK []))
  else if ¬ segment.flags.contains .ACK then (self,none)
  else if segment.acknowledgment = self.send_next then
    if self.state = .LastAck then ({ self with outstanding := none, state := .Closed },none)
    else (self.acknowledge now).accept socket segment now
  else if self.state = .SynReceived then (self,none)
  else self.accept socket segment now

/-- The connection expects segments in sequence, and answers others. -/
def synchronized (self : TcpConnection) : Prop := self.state ≠ .Closed ∧ self.state ≠ .TimeWait ∧ self.state ≠ .SynSent

instance decidableSynchronized (self : TcpConnection) : Decidable self.synchronized := by
  unfold synchronized
  infer_instance

/-- What `receive` can do with a segment. -/
inductive Received (self : TcpConnection) (socket : TcpSocket) (segment : TcpSegment) (now : SimTime) :
    TcpConnection × Option TcpSegment → Prop
  | ignored (reason : ¬ self.synchronized ∨ segment.flags.contains .RST = true ∨ segment.flags.contains .ACK = false ∨
      self.state = .SynReceived) : Received self socket segment now (self,none)
  | reset (flagged : segment.flags.contains .RST = true) :
      Received self socket segment now ({ self with state := .Closed, outstanding := none },none)
  | waiting {connection : TcpConnection} (state : self.state = .TimeWait)
      (same : connection = self ∨ connection = self.enter_time_wait now) :
      Received self socket segment now
        (connection,if segment.sequence_len ≠ 0 then some (connection.segment socket .ACK []) else none)
  | opened (state : self.state = .SynSent) (flagged : segment.flags.contains (TcpFlags.SYN.or .ACK) = true)
      (acknowledged : segment.acknowledgment = self.send_next) {connection : TcpConnection}
      (established : connection = { self with
        receive_next := segment.sequence + 1, peer_window := segment.window, outstanding := none,
        state := .Established, last_activity := now }) (unset : segment.flags.contains .RST = false) :
      Received self socket segment now (connection,some (connection.segment socket .ACK []))
  | repeated (state : self.state = .SynReceived) (flagged : segment.flags.contains .SYN = true)
      (same : segment.sequence + 1 = self.receive_next) :
      Received self socket segment now (self,self.outstanding.map (·.segment))
  | unexpected (state : self.synchronized) (unset : segment.flags.contains .RST = false)
      (elsewhere : segment.sequence ≠ self.receive_next) :
      Received self socket segment now (self,some (self.segment socket .ACK []))
  | last (state : self.state = .LastAck) (expected : segment.sequence = self.receive_next)
      (acknowledged : segment.acknowledgment = self.send_next) :
      Received self socket segment now ({ self with outstanding := none, state := .Closed },none)
  | acknowledged (state : self.synchronized) (lives : self.state ≠ .LastAck) (unset : segment.flags.contains .RST = false)
      (expected : segment.sequence = self.receive_next) (flagged : segment.flags.contains .ACK = true)
      (acknowledged : segment.acknowledgment = self.send_next) :
      Received self socket segment now ((self.acknowledge now).accept socket segment now)
  | unacknowledged (state : self.synchronized) (opened : self.state ≠ .SynReceived)
      (unset : segment.flags.contains .RST = false) (expected : segment.sequence = self.receive_next)
      (flagged : segment.flags.contains .ACK = true) (waits : segment.acknowledgment ≠ self.send_next) :
      Received self socket segment now (self.accept socket segment now)

theorem receive_cases (self : TcpConnection) (socket : TcpSocket) (segment : TcpSegment) (now : SimTime) :
    Received self socket segment now (self.receive socket segment now) := by
  unfold receive
  by_cases closed : self.state = .Closed
  · rw [if_pos closed]
    exact .ignored (.inl fun state => state.1 closed)
  rw [if_neg closed]
  by_cases reset : segment.flags.contains .RST = true
  · rw [if_pos reset]
    simp only
    split
    · split
      · exact .reset reset
      · exact .ignored (.inr (.inl reset))
    · split
      · exact .reset reset
      · exact .ignored (.inr (.inl reset))
  rw [if_neg reset]
  by_cases waiting : self.state = .TimeWait
  · rw [if_pos waiting]
    refine .waiting waiting ?_
    split
    · exact .inr rfl
    · exact .inl rfl
  rw [if_neg waiting]
  have unset : segment.flags.contains .RST = false := Bool.eq_false_iff.mpr reset
  by_cases sent : self.state = .SynSent
  · rw [if_pos sent]
    split
    · rename_i both
      exact .opened sent both.1 both.2 rfl unset
    · exact .ignored (.inl fun state => state.2.2 sent)
  rw [if_neg sent]
  have state : self.synchronized := ⟨closed,waiting,sent⟩
  split
  · rename_i repeated
    exact .repeated repeated.1 repeated.2.1 repeated.2.2
  by_cases elsewhere : segment.sequence ≠ self.receive_next
  · rw [if_pos elsewhere]
    exact .unexpected state unset elsewhere
  rw [if_neg elsewhere]
  have expected := not_ne_iff.mp elsewhere
  by_cases flagged : segment.flags.contains .ACK = true
  · rw [if_neg (not_not.mpr flagged)]
    split
    · rename_i acknowledged
      split
      · rename_i last
        exact .last last expected acknowledged
      · rename_i lives
        exact .acknowledged state lives unset expected flagged acknowledged
    · rename_i waits
      split
      · rename_i opening
        exact .ignored (.inr (.inr (.inr opening)))
      · rename_i opened
        exact .unacknowledged state opened unset expected flagged waits
  · rw [if_pos flagged]
    exact .ignored (.inr (.inr (.inl (Bool.eq_false_iff.mpr flagged))))

/-- What a connection can do with a segment in sequence. -/
inductive Accepted (self : TcpConnection) (socket : TcpSocket) (segment : TcpSegment) (now : SimTime) :
    TcpConnection × Option TcpSegment → Prop
  | closed (done : self.peer_closed = true) : Accepted self socket segment now (self.noted segment now,none)
  | full (live : self.peer_closed = false) (exceeds : RECEIVE_LIMIT < self.received.length + segment.payload.length) :
      Accepted self socket segment now (self.noted segment now,some ((self.noted segment now).segment socket .ACK []))
  | taken (live : self.peer_closed = false) (fits : self.received.length + segment.payload.length ≤ RECEIVE_LIMIT)
      (unfinished : segment.flags.contains .FIN = false) :
      Accepted self socket segment now ((self.noted segment now).extend segment,
        if segment.payload ≠ [] then some (((self.noted segment now).extend segment).segment socket .ACK []) else none)
  | finished (live : self.peer_closed = false) (fits : self.received.length + segment.payload.length ≤ RECEIVE_LIMIT)
      (fin : segment.flags.contains .FIN = true) :
      Accepted self socket segment now (((self.noted segment now).extend segment).finish now,
        some ((((self.noted segment now).extend segment).finish now).segment socket .ACK []))

theorem accept_cases (self : TcpConnection) (socket : TcpSocket) (segment : TcpSegment) (now : SimTime) :
    Accepted self socket segment now (self.accept socket segment now) := by
  unfold accept
  simp only
  have closed : (self.noted segment now).peer_closed = self.peer_closed := rfl
  have buffer : (self.noted segment now).received = self.received := rfl
  rw [closed,buffer]
  by_cases done : self.peer_closed = true
  · rw [if_pos done]
    exact .closed done
  rw [if_neg done]
  have live : self.peer_closed = false := Bool.eq_false_iff.mpr done
  by_cases exceeds : RECEIVE_LIMIT < self.received.length + segment.payload.length
  · rw [if_pos exceeds]
    exact .full live exceeds
  rw [if_neg exceeds]
  have fits := not_lt.mp exceeds
  by_cases fin : segment.flags.contains .FIN = true
  · rw [if_pos fin,if_pos (.inr fin)]
    exact .finished live fits fin
  · rw [if_neg fin]
    simp only [fin,Bool.false_eq_true,or_false]
    exact .taken live fits (Bool.eq_false_iff.mpr fin)

section Acknowledging
variable {self : TcpConnection} {socket : TcpSocket} {segment : TcpSegment} {now : SimTime}

@[simp] theorem acknowledge_received : (self.acknowledge now).received = self.received := by
  unfold acknowledge
  simp only
  split <;> split <;> rfl

@[simp] theorem acknowledge_send_next : (self.acknowledge now).send_next = self.send_next := by
  unfold acknowledge
  simp only
  split <;> split <;> rfl

@[simp] theorem acknowledge_receive_next : (self.acknowledge now).receive_next = self.receive_next := by
  unfold acknowledge
  simp only
  split <;> split <;> rfl

@[simp] theorem acknowledge_peer_closed : (self.acknowledge now).peer_closed = self.peer_closed := by
  unfold acknowledge
  simp only
  split <;> split <;> rfl

@[simp] theorem acknowledge_outstanding : (self.acknowledge now).outstanding = none := by
  unfold acknowledge
  simp only
  split <;> split <;> rfl

theorem acknowledge_state (waits : self.state ≠ .SynReceived) :
    (self.acknowledge now).state = self.state ∨
      self.state = .FinWait ∧ self.peer_closed = true ∧ (self.acknowledge now).state = .TimeWait := by
  unfold acknowledge
  simp only
  rw [if_neg waits]
  split
  · rename_i both
    exact .inr ⟨both.1,both.2,rfl⟩
  · exact .inl rfl

theorem acknowledge_established (waits : self.state = .SynReceived) : (self.acknowledge now).state = .Established := by
  unfold acknowledge
  simp only
  rw [if_pos waits,if_neg (by simp)]

@[simp] theorem finish_received : (self.finish now).received = self.received := by
  unfold finish
  simp only
  split
  · split <;> rfl
  · rfl

@[simp] theorem finish_send_next : (self.finish now).send_next = self.send_next := by
  unfold finish
  simp only
  split
  · split <;> rfl
  · rfl

@[simp] theorem finish_receive_next : (self.finish now).receive_next = self.receive_next + 1 := by
  unfold finish
  simp only
  split
  · split <;> rfl
  · rfl

@[simp] theorem finish_outstanding : (self.finish now).outstanding = self.outstanding := by
  unfold finish
  simp only
  split
  · split <;> rfl
  · rfl

@[simp] theorem finish_peer_closed : (self.finish now).peer_closed = true := by
  unfold finish
  simp only
  split
  · split <;> rfl
  · rfl

theorem finish_state : (self.finish now).state = .CloseWait ∧ self.state ≠ .FinWait ∨
    self.state = .FinWait ∧ self.outstanding ≠ none ∧ (self.finish now).state = .FinWait ∨
    self.state = .FinWait ∧ self.outstanding = none ∧ (self.finish now).state = .TimeWait := by
  unfold finish
  simp only
  by_cases waits : self.state = .FinWait
  · rw [if_pos waits]
    split
    · rename_i acknowledged
      exact .inr (.inr ⟨waits,Option.isNone_iff_eq_none.mp acknowledged,rfl⟩)
    · rename_i pending
      exact .inr (.inl ⟨waits,fun none => pending (by simp [none]),waits⟩)
  · rw [if_neg waits]
    exact .inl ⟨rfl,waits⟩

end Acknowledging

/-- Whether `tcp_tick` keeps the connection. -/
def retained (self : TcpConnection) (now : SimTime) : Bool :=
  self.state ≠ .Closed && self.idle_timeout_us.all (satSub64 now self.last_activity < ·) &&
    self.time_wait_until.all (now < ·)

/-- The retransmission of a tick. -/
def retransmit (self : TcpConnection) (now : SimTime) : TcpConnection × Option TcpSegment :=
  match self.outstanding with
  | none => (self,none)
  | some pending =>
    if now < pending.deadline then (self,none)
    else if 5 ≤ pending.retries then ({ self with state := .Closed },none)
    else
      let retries := pending.retries + 1
      ({ self with
          outstanding := some ⟨pending.segment,satAdd64 now (1000000 <<< retries.toUInt64),retries⟩,
          retransmissions := self.retransmissions + 1 },some pending.segment)

end TcpConnection

/-- What `TcpRuntime` holds for one socket: its connection, whether a listener
    may create one, and the supply of sequence numbers. -/
structure TcpEndpoint where
  connection : Option TcpConnection
  listening : Bool
  next_sequence : UInt32
deriving DecidableEq

namespace TcpEndpoint

def tcp_initial_sequence (self : TcpEndpoint) : TcpEndpoint × UInt32 :=
  ({ self with next_sequence := self.next_sequence + 64000 },self.next_sequence + 64000)

/-- Begin an active open and return its SYN. -/
def tcp_connect (self : TcpEndpoint) (socket : TcpSocket) (now : SimTime) : Except TcpError (TcpEndpoint × TcpSegment) :=
  if self.connection.isSome then .error .State
  else
    let supplied := self.tcp_initial_sequence
    let opened := { TcpConnection.new supplied.2 now with state := .SynSent }.send socket .SYN [] now
    .ok ({ supplied.1 with connection := some opened.1 },opened.2)

/-- Send one segment with backpressure until acknowledged. -/
def tcp_send (self : TcpEndpoint) (socket : TcpSocket) (payload : List UInt8) (now : SimTime) :
    Except TcpError (TcpEndpoint × TcpSegment) :=
  if payload = [] ∨ MAX_PAYLOAD < payload.length then .error .Capacity
  else
    match self.connection with
    | none => .error .Missing
    | some connection =>
      if ¬ (connection.state = .Established ∨ connection.state = .CloseWait) then .error .State
      else if connection.outstanding.isSome ∨ connection.peer_window.toNat < payload.length then .error .Busy
      else
        let sent := connection.send socket (TcpFlags.ACK.or .PSH) payload now
        .ok ({ self with connection := some sent.1 },sent.2)

/-- Initiate a FIN exchange once pending data is acknowledged. -/
def tcp_close (self : TcpEndpoint) (socket : TcpSocket) (now : SimTime) : Except TcpError (TcpEndpoint × TcpSegment) :=
  match self.connection with
  | none => .error .Missing
  | some connection =>
    if connection.outstanding.isSome then .error .Busy
    else
      let next := match connection.state with
        | .Established => some TcpState.FinWait
        | .CloseWait => some TcpState.LastAck
        | _ => none
      match next with
      | none => .error .State
      | some state =>
        let sent := { connection with state := state }.send socket (TcpFlags.ACK.or .FIN) [] now
        .ok ({ self with connection := some sent.1 },sent.2)

/-- Drain received bytes and return a window update for the peer. -/
def tcp_read (self : TcpEndpoint) (socket : TcpSocket) : Except TcpError (TcpEndpoint × List UInt8 × TcpSegment) :=
  match self.connection with
  | none => .error .Missing
  | some connection =>
    let drained := { connection with received := [] }
    .ok ({ self with connection := some drained },connection.received,drained.segment socket .ACK [])

/-- Process an addressed segment and return at most one response. -/
def receive_tcp (self : TcpEndpoint) (socket : TcpSocket) (segment : TcpSegment) (now : SimTime) :
    TcpEndpoint × Option TcpSegment :=
  match self.connection with
  | some connection =>
    let received := connection.receive socket segment now
    ({ self with connection := some received.1 },received.2)
  | none =>
    if segment.flags.contains .RST then (self,none)
    else if segment.flags = .SYN ∧ self.listening then
      let supplied := self.tcp_initial_sequence
      let opened := (TcpConnection.listening supplied.2 segment now).send socket (TcpFlags.SYN.or .ACK) [] now
      ({ supplied.1 with connection := some opened.1 },some opened.2)
    else
      let reset := (TcpConnection.new 0 now).segment socket .RST []
      (self,some (
        if segment.flags.contains .ACK then { reset with sequence := segment.acknowledgment }
        else { reset with
          flags := TcpFlags.RST.or .ACK, acknowledgment := segment.sequence + segment.sequence_len }))

/-- Expire an inactive stream and retransmit an outstanding segment. -/
def tcp_tick (self : TcpEndpoint) (now : SimTime) : TcpEndpoint × Option TcpSegment :=
  match self.connection with
  | none => (self,none)
  | some connection =>
    if connection.retained now then
      let ticked := connection.retransmit now
      ({ self with connection := some ticked.1 },ticked.2)
    else ({ self with connection := none },none)

end TcpEndpoint
end Rios.Tcp
