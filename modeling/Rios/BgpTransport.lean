import Rios.BgpSession
import Rios.Wire

/-!
# BGP over a byte stream

The bounded accumulator of received bytes, and the output queue of one transport
with the flush that hands it to TCP piece by piece. TCP is met through the send
capacity that it reports and through whether it takes a segment.
-/

namespace Rios.Bgp
open Rios.Machine Rios.Device

/-- A bounded accumulator for partial or coalesced reads. -/
structure BgpStream where
  bytes : List UInt8
deriving DecidableEq

namespace BgpStream

def push (self : BgpStream) (bytes : List UInt8) : Result BgpStream :=
  if BGP_MAX_MESSAGE * 2 - self.bytes.length < bytes.length then .error ⟨6,8⟩ else .ok ⟨self.bytes ++ bytes⟩

/-- Consume one frame so that OPEN capabilities can affect the decoding of the next UPDATE. -/
def next_message (self : BgpStream) (four_octet_as : Bool) : Result (Option BgpMessage × BgpStream) :=
  if self.bytes.length < 19 then .ok (none,self)
  else
    match message_length self.bytes with
    | .error error => .error error
    | .ok length =>
      if self.bytes.length < length then .ok (none,self)
      else
        match BgpMessage.decode (self.bytes.take length) four_octet_as with
        | .error error => .error error
        | .ok message => .ok (some message,⟨self.bytes.drop length⟩)

end BgpStream

def TX_LIMIT : Nat := 32

/-- The output side of one transport. -/
structure Stream where
  fsm : BgpSession
  output : List (List UInt8)
  offset : Nat
  closing : Option SimTime

namespace Stream

def queue (self : Stream) (message : BgpMessage) : Result Stream :=
  if TX_LIMIT ≤ self.output.length then .error ⟨6,8⟩
  else
    match message.encode self.fsm.four_octet_as with
    | .error error => .error error
    | .ok bytes => .ok { self with output := self.output ++ [bytes] }

/-- Queue the messages of an action, ignoring those that do not fit. -/
def queue_all (self : Stream) (messages : List BgpMessage) : Stream :=
  messages.foldl (fun stream message => match stream.queue message with
    | .error _ => stream
    | .ok stream => stream) self

/-- Finish any partially written frame before the notification; TCP has no message boundaries. -/
def fail (self : Stream) (error : BgpError) (now : SimTime) : Stream :=
  let stream := { self with output := self.output.take (if 0 < self.offset then 1 else 0) }
  let failed := stream.fsm.protocol_error error now
  let stream := { stream with fsm := failed.1 }.queue_all failed.2.messages
  { stream with closing := some (satAdd64 now 5000000) }

/-- `bgp_flush`: the stream, the bytes handed to TCP, and whether the transport stays. -/
def bgp_flush (self : Stream) (send_capacity : Option Nat) (tcp_send : List UInt8 → Bool) (tcp_close : Bool)
    (now : SimTime) : Stream × List UInt8 × Bool :=
  if self.closing.any (· ≤ now) then (self,[],false)
  else
    match send_capacity with
    | none => (self,[],false)
    | some capacity =>
      if capacity = 0 then (self,[],true)
      else
        match self.output with
        | message :: rest =>
          let stop := min (self.offset + capacity) message.length
          let segment := (message.take stop).drop self.offset
          if tcp_send segment then
            if stop = message.length then ({ self with output := rest, offset := 0 },segment,true)
            else ({ self with offset := stop },segment,true)
          else (self,[],true)
        | [] => if self.closing.isSome ∧ tcp_close then (self,[],false) else (self,[],true)

end Stream
end Rios.Bgp
