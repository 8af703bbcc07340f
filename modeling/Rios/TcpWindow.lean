import Rios.TcpStorm

/-!
# Window updates

A side that may not send waits for a segment that advertises an open window. If
the last such segment on its way is not lost, not out of sequence and not
followed by an older one, then the sides never wait for each other.
-/

namespace Rios.Tcp
open Rios.Machine Rios.Device Rios.Queue

/-- A segment that opens the window of the side that accepts it. -/
def TcpSegment.Opens (self : TcpSegment) : Prop :=
  self.window ≠ 0 ∧ self.flags.contains .ACK = true ∧ self.flags.contains .RST = false

/-- Every SYN advertises an open window. -/
def TcpSegment.Wide (self : TcpSegment) : Prop := self.flags.contains .SYN = true → self.window ≠ 0

namespace TcpConnection

variable {self : TcpConnection} {socket : TcpSocket} {segment : TcpSegment} {now : SimTime}

/-- What is outstanding is a SYN only before the stream begins. -/
def Wide (self : TcpConnection) : Prop := ∀ pending ∈ self.outstanding, pending.segment.Wide

end TcpConnection

namespace Network

variable {sockets : Side → TcpSocket} {network : Network}

/-- The side is Established and its peer's window is closed. -/
def Stalled (network : Network) (side : Side) : Prop :=
  ∃ connection, network.connection side = some connection ∧ connection.state = .Established ∧ connection.peer_window = 0

/-- A stalled side whose peer has room is about to hear of it. -/
def Served (network : Network) (side : Side) : Prop :=
  network.Stalled side → ∀ peer, network.connection side.other = some peer → peer.received.length = RECEIVE_LIMIT ∨
    ∃ segment, (side,segment) ∈ network.flight ∧ segment.Opens

/-- The peer of a side has room, and of the segments in flight only the one at an index could tell the side. -/
def Last (network : Network) (side : Side) (index : Nat) : Prop :=
  ∃ peer, network.connection side.other = some peer ∧ peer.received.length ≠ RECEIVE_LIMIT ∧
    ∀ other, (side,other) ∈ network.flight.eraseIdx index → ¬ other.Opens

/-- The last segment on its way that opens the window of a stalled side is not lost
    or out of sequence, and none that closes it comes where no other opens it again. -/
def Heeds (network : Network) : Operation → Prop
  | .lose index => ∀ side segment, network.flight[index]? = some (side,segment) → network.Last side index →
      segment.Opens → ¬ network.Stalled side
  | .deliver index _ => ∀ side segment connection, network.flight[index]? = some (side,segment) →
      network.connection side = some connection → network.Last side index →
        (segment.Opens → network.Stalled side → segment.sequence = connection.receive_next) ∧
        (segment.window = 0 → segment.sequence ≠ connection.receive_next)
  | _ => True

variable {side : Side}

variable {called : Party × Option TcpSegment}

/-- All SYNs advertise an open window. -/
structure Wide (network : Network) : Prop where
  flight : ∀ side segment, (side,segment) ∈ network.flight → segment.Wide
  pending : ∀ side connection, network.connection side = some connection → connection.Wide

/-- The active side of a stream whose peer has these bytes in its buffer. -/
def writer (bytes : List UInt8) : TcpConnection where
  state := .Established
  retransmissions := 0
  send_next := 64001 + UInt32.ofNat bytes.length
  receive_next := 64001
  peer_window := UInt16.ofNat (RECEIVE_LIMIT - bytes.length)
  received := []
  outstanding := none
  last_activity := 0
  idle_timeout_us := some IDLE_US
  time_wait_until := none
  peer_closed := false
  passive := false

/-- The passive side with these bytes in its buffer. -/
def reader (bytes : List UInt8) : TcpConnection where
  state := .Established
  retransmissions := 0
  send_next := 64001
  receive_next := 64001 + UInt32.ofNat bytes.length
  peer_window := 65535
  received := bytes
  outstanding := none
  last_activity := 0
  idle_timeout_us := some IDLE_US
  time_wait_until := none
  peer_closed := false
  passive := true

instance decidableStalled (network : Network) (side : Side) : Decidable (network.Stalled side) :=
  decidable_of_iff ((network.connection side).any fun connection =>
      connection.state = .Established && connection.peer_window = 0) (by
    cases present : network.connection side with
    | none => simp [Stalled,present]
    | some connection => simp [Stalled,present])

end Network
end Rios.Tcp
