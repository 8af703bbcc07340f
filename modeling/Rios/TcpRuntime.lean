import Rios.OrderedMap
import Rios.Tcp

/-!
# All TCP connections of a device

The connections by socket, the listeners and the supply of sequence numbers. An
operation on one socket is the operation of its endpoint, written back.
-/

namespace Rios.Tcp
open Rios.Machine Rios.Device Rios.Queue

/-- The derived `Ord`: the fields in their order. -/
def TcpSocket.tuple (self : TcpSocket) : Ipv4Addr ×ₗ UInt16 ×ₗ Ipv4Addr ×ₗ UInt16 :=
  toLex (self.local_address,toLex (self.local_port,toLex (self.remote_address,self.remote_port)))

instance socketLinearOrder : LinearOrder TcpSocket :=
  LinearOrder.lift' TcpSocket.tuple (by
    rintro ⟨a,b,c,d⟩ ⟨e,f,g,h⟩ same
    simpa [TcpSocket.tuple] using same)

def MAX_CONNECTIONS : Nat := 1024

/-- The errors of operations that are not on one connection. -/
inductive TcpRefusal where
  | Endpoint
  | Connection (error : TcpError)
deriving DecidableEq

structure TcpRuntime where
  connections : OrderedMap TcpSocket TcpConnection
  listeners : OrderedMap UInt16 Unit
  next_sequence : UInt32
deriving DecidableEq

namespace TcpRuntime

/-- What the runtime holds for one socket. -/
def endpoint (self : TcpRuntime) (socket : TcpSocket) : TcpEndpoint :=
  ⟨self.connections.get? socket,self.listeners.contains socket.local_port,self.next_sequence⟩

/-- The runtime after an operation on one socket. -/
def set_endpoint (self : TcpRuntime) (socket : TcpSocket) (endpoint : TcpEndpoint) : TcpRuntime :=
  { self with
    connections := match endpoint.connection with
      | none => self.connections.erase socket
      | some connection => self.connections.insert socket connection
    next_sequence := endpoint.next_sequence }

/-- Open a simulated listener, unless there are too many. -/
def tcp_listen (self : TcpRuntime) (port : UInt16) : Except TcpRefusal TcpRuntime :=
  if port = 0 then .error .Endpoint
  else if 1024 ≤ self.listeners.size ∧ !self.listeners.contains port then .error (.Connection .Capacity)
  else .ok { self with listeners := self.listeners.insert port () }

/-- Remove a listener without disturbing its existing connections. -/
def tcp_unlisten (self : TcpRuntime) (port : UInt16) : TcpRuntime := { self with listeners := self.listeners.erase port }

/-- Let protocols with their own liveness timers retain a connection while idle. -/
def tcp_set_idle_timeout (self : TcpRuntime) (socket : TcpSocket) (timeout_us : Option UInt64) : TcpRuntime :=
  match self.connections.get? socket with
  | none => self
  | some connection =>
    { self with connections := self.connections.insert socket { connection with idle_timeout_us := timeout_us } }

/-- Abort a simulated transport, releasing its buffers and returning a reset. -/
def tcp_abort (self : TcpRuntime) (socket : TcpSocket) : Except TcpError (TcpRuntime × TcpSegment) :=
  match self.connections.get? socket with
  | none => .error .Missing
  | some connection =>
    .ok ({ self with connections := self.connections.erase socket },connection.segment socket (TcpFlags.RST.or .ACK) [])

/-- Begin an active open from an address of the device. -/
def tcp_connect (self : TcpRuntime) (owns_any_ipv4 : Ipv4Addr → Bool) (socket : TcpSocket) (now : SimTime) :
    Except TcpRefusal (TcpRuntime × TcpSegment) :=
  if socket.local_port = 0 || socket.remote_port = 0 || !owns_any_ipv4 socket.local_address ||
      socket.remote_address = 0 || (224 ≤ first_octet socket.remote_address && first_octet socket.remote_address ≤ 239) ||
      socket.remote_address = 0xffffffff then .error .Endpoint
  else if self.connections.contains socket then .error (.Connection .State)
  else if MAX_CONNECTIONS ≤ self.connections.size then .error (.Connection .Capacity)
  else
    match (self.endpoint socket).tcp_connect socket now with
    | .error error => .error (.Connection error)
    | .ok (endpoint,segment) => .ok (self.set_endpoint socket endpoint,segment)

def tcp_send (self : TcpRuntime) (socket : TcpSocket) (payload : List UInt8) (now : SimTime) :
    Except TcpError (TcpRuntime × TcpSegment) :=
  ((self.endpoint socket).tcp_send socket payload now).map (fun result => (self.set_endpoint socket result.1,result.2))

def tcp_close (self : TcpRuntime) (socket : TcpSocket) (now : SimTime) : Except TcpError (TcpRuntime × TcpSegment) :=
  ((self.endpoint socket).tcp_close socket now).map (fun result => (self.set_endpoint socket result.1,result.2))

/-- Drain received bytes and return a window update for the peer. -/
def tcp_read (self : TcpRuntime) (socket : TcpSocket) : Except TcpError (TcpRuntime × List UInt8 × TcpSegment) :=
  ((self.endpoint socket).tcp_read socket).map (fun result => (self.set_endpoint socket result.1,result.2.1,result.2.2))

/-- Expire inactive streams and retransmit outstanding segments, in the order of the sockets. -/
def tcp_tick (self : TcpRuntime) (now : SimTime) : TcpRuntime × List (TcpSocket × TcpSegment) :=
  let kept := self.connections.retain (fun _ connection => connection.retained now)
  ({ self with connections := kept.mapValues (fun _ connection => (connection.retransmit now).1) },
    kept.entries.filterMap (fun entry => (entry.2.retransmit now).2.map (entry.1,·)))

/-- The tick of a runtime is the tick of each of its sockets. -/
theorem endpoint_tcp_tick (self : TcpRuntime) (now : SimTime) (socket : TcpSocket) :
    (self.tcp_tick now).1.endpoint socket = ((self.endpoint socket).tcp_tick now).1 := by
  simp only [endpoint,tcp_tick,TcpEndpoint.tcp_tick,OrderedMap.get?_mapValues,OrderedMap.get?_retain]
  cases present : self.connections.get? socket with
  | none => rfl
  | some connection =>
    by_cases kept : connection.retained now = true
    · simp [kept]
    · simp [kept]

end TcpRuntime
end Rios.Tcp
