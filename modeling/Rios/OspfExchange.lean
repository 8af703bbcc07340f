import Rios.OspfWire
import Rios.OrderedMap
import Rios.Queue

/-!
# OSPF database exchange

One master/slave exchange between two neighbours, with the reliable
transmission of updates. The advertisements are a parameter: both protocol
versions use the same state machine.
-/

namespace Rios.Ospf
open Rios.Machine Rios.Device Rios.Queue

def RETRANSMIT_US : UInt64 := 5000000
/-- The deadline of a retransmission; irreducible, so that unification does not count to it. -/
@[irreducible] def retransmit_at (now : SimTime) : SimTime := satAdd64 now RETRANSMIT_US
/-- Maximum advertisements retained by an adjacency or database. -/
def OSPF_DATABASE_LIMIT : Nat := 4096

def compare_lsa_instances (a b : Int32 × UInt16 × UInt16) : Ordering :=
  (compare a.1.toInt b.1.toInt).then ((compare a.2.1.toNat b.2.1.toNat).then
    (if a.2.2 = LSA_MAX_AGE ∨ b.2.2 = LSA_MAX_AGE then compare (decide (a.2.2 = LSA_MAX_AGE)) (decide (b.2.2 = LSA_MAX_AGE))
     else if 900 < max a.2.2.toNat b.2.2.toNat - min a.2.2.toNat b.2.2.toNat then compare b.2.2.toNat a.2.2.toNat
     else .eq))

/-- Compare instances using sequence, checksum, MaxAge and MaxAgeDiff. -/
def compare_lsa (a b : LsaHeader) : Ordering :=
  compare_lsa_instances (a.sequence,a.checksum,a.age) (b.sequence,b.checksum,b.age)

inductive OspfNeighborState where
  | Down
  | Init
  | TwoWay
  | ExStart
  | Exchange
  | Loading
  | Full
deriving DecidableEq

/-- The wire operations needed by database exchange, independent of network addresses. -/
class ExchangeAdvertisement (L : Type) where
  Key : Type
  Header : Type
  Hello : Type
  key_order : LinearOrder Key
  OPTIONS : UInt32
  /-- IP header plus OSPF header in bytes. -/
  PACKET_OVERHEAD : UInt16
  /-- IP header, OSPF header and fixed description fields in bytes. -/
  DD_OVERHEAD : UInt16
  key : L → Key
  header : L → Except WireError Header
  encoded_len : L → Except WireError Nat
  header_key : Header → Key
  compare : Header → Header → Ordering

export ExchangeAdvertisement (Key Header Hello OPTIONS PACKET_OVERHEAD DD_OVERHEAD key header encoded_len header_key)

instance advertisementKeyOrder {L : Type} [ExchangeAdvertisement L] : LinearOrder (Key L) := ExchangeAdvertisement.key_order

/-- Standard Hello data, including election and compatibility fields. -/
structure OspfHello where
  mask : Ipv4Addr
  hello_interval : UInt16
  options : UInt8
  priority : UInt8
  dead_interval : UInt32
  designated_router : Ipv4Addr
  backup_router : Ipv4Addr
  neighbors : List Ipv4Addr
deriving DecidableEq

instance lsaAdvertisement : ExchangeAdvertisement Lsa where
  Key := LsaKey
  Header := LsaHeader
  Hello := OspfHello
  key_order := keyLinearOrder
  OPTIONS := 2
  PACKET_OVERHEAD := 44
  DD_OVERHEAD := 52
  key := Lsa.key
  header := Lsa.header
  encoded_len lsa := lsa.encode.map List.length
  header_key h := h.key
  compare := compare_lsa

/-- The five packet bodies. -/
inductive OspfBody (L : Type) [ExchangeAdvertisement L] where
  | Hello (hello : Hello L)
  | DatabaseDescription (mtu : UInt16) (options : UInt32) (flags : UInt8) (sequence : UInt32) (headers : List (Header L))
  | LinkStateRequest (keys : List (Key L))
  | LinkStateUpdate (lsas : List L)
  | LinkStateAck (headers : List (Header L))

/-- The area database that the owning device hands to an exchange. -/
abbrev Database (L : Type) [ExchangeAdvertisement L] := OrderedMap (Key L) L

/-- Packet responses and validated advertisements offered to the owning database. -/
structure OspfExchangeResult (L : Type) [ExchangeAdvertisement L] where
  packets : List (OspfBody L)
  advertisements : List L

/-- One master/slave database exchange. -/
structure OspfExchange (L : Type) [ExchangeAdvertisement L] where
  state : OspfNeighborState
  master : Bool
  mtu : UInt16
  sequence : UInt32
  summary : List (Header L)
  offset : Nat
  last_dd : Option (OspfBody L)
  dd_due : SimTime
  requests : OrderedMap (Key L) (Header L)
  request_due : SimTime
  retransmit : OrderedMap (Key L) (L × SimTime)

/-- `slice::chunks`. -/
def chunks {α : Type} (size : Nat) (items : List α) : List (List α) :=
  (List.range ((items.length + size - 1) / size)).map (fun i => (items.drop (i * size)).take size)

namespace OspfExchange
variable {L : Type} [ExchangeAdvertisement L]

/-- Begin ExStart with a deterministic sequence supplied by the owning device. -/
def new (here peer : Ipv4Addr) (mtu : UInt16) (sequence : UInt32) : OspfExchange L :=
  { state := .ExStart,
    master := peer < here,
    mtu := mtu,
    sequence := sequence,
    summary := [],
    offset := 0,
    last_dd := none,
    dd_due := 0,
    requests := ∅,
    request_due := 0,
    retransmit := ∅ }

/-- Number of outstanding explicit requests and unacknowledged updates. -/
def pending (self : OspfExchange L) : Nat × Nat := (self.requests.size,self.retransmit.size)

def send_dd (self : OspfExchange L) (flags : UInt8) (headers : List (Header L)) (now : SimTime) :
    OspfExchange L × OspfBody L :=
  let body := OspfBody.DatabaseDescription self.mtu (OPTIONS L) flags self.sequence headers
  ({ self with last_dd := some body, dd_due := retransmit_at now },body)

/-- The headers of the advertisements that have one, at most as many as a database holds. -/
def snapshot (database : Database L) : List (Header L) :=
  (database.values.filterMap (fun lsa => (header lsa).toOption)).take OSPF_DATABASE_LIMIT

/-- Snapshot database headers and send the initial empty description. -/
def start (self : OspfExchange L) (database : Database L) (now : SimTime) : OspfExchange L × OspfBody L :=
  send_dd
    { self with
      state := .ExStart,
      summary := snapshot database,
      offset := 0,
      requests := ∅,
      retransmit := ∅ } 7 [] now

/-- The end of the next page of the summary. -/
def page_end (self : OspfExchange L) : Nat :=
  min (self.offset + max ((self.mtu.toNat - (DD_OVERHEAD L).toNat) / 20) 1) self.summary.length

/-- Send the next page of the summary. -/
def next_dd (self : OspfExchange L) (now : SimTime) : OspfExchange L × OspfBody L :=
  let page := self.page_end
  send_dd { self with offset := page }
    ((if self.master then 1 else 0) ||| if page < self.summary.length then 2 else 0)
    ((self.summary.take page).drop self.offset) now

/-- Whether a header announces something newer than the database has. -/
def newer_than (database : Database L) (h : Header L) : Bool :=
  match (database.get? (header_key h)).bind (fun lsa => (header lsa).toOption) with
  | none => true
  | some old => ExchangeAdvertisement.compare h old = .gt

/-- Request one announced header, if it is newer and there is room. -/
def request_header (database : Database L) (requests : OrderedMap (Key L) (Header L)) (h : Header L) :
    OrderedMap (Key L) (Header L) :=
  if newer_than database h ∧ (requests.size < OSPF_DATABASE_LIMIT ∨ requests.contains (header_key h)) then
    match requests.get? (header_key h) with
    | some old => if ExchangeAdvertisement.compare h old = .gt then requests.insert (header_key h) h else requests
    | none => requests.insert (header_key h) h
  else requests

def request_headers (self : OspfExchange L) (headers : List (Header L)) (database : Database L) : OspfExchange L :=
  { self with requests := headers.foldl (request_header database) self.requests }

def request_packets (self : OspfExchange L) : List (OspfBody L) :=
  (chunks (max ((self.mtu.toNat - (PACKET_OVERHEAD L).toNat) / 12) 1) self.requests.keys).map OspfBody.LinkStateRequest

/-- Leave the exchange of summaries, with the packets that ask for what is missing. -/
def finish (self : OspfExchange L) (now : SimTime) : OspfExchange L × List (OspfBody L) :=
  if self.requests.isEmpty then ({ self with state := .Full },[])
  else ({ self with state := .Loading, request_due := retransmit_at now },self.request_packets)

def can_exchange (self : OspfExchange L) : Bool := self.state = .Exchange ∨ self.state = .Loading ∨ self.state = .Full

/-- Queue a reliable update. Oversized advertisements cannot be sent without fragmentation. -/
def flood (self : OspfExchange L) (lsa : L) (now : SimTime) : OspfExchange L × Option (OspfBody L) :=
  if ¬ self.can_exchange then (self,none)
  else
    match encoded_len lsa with
    | .error _ => (self,none)
    | .ok len =>
      if self.mtu.toNat < len + (PACKET_OVERHEAD L).toNat + 4 ∨
          (OSPF_DATABASE_LIMIT ≤ self.retransmit.size ∧ ¬ self.retransmit.contains (key lsa)) then (self,none)
      else
        ({ self with retransmit := self.retransmit.insert (key lsa) (lsa,retransmit_at now) },
          some (.LinkStateUpdate [lsa]))

/-- Give up the exchange: the sequence number advances and the summaries start over. -/
def restart (self : OspfExchange L) (database : Database L) (now : SimTime) : OspfExchange L × OspfBody L :=
  start { self with sequence := self.sequence + 1 } database now

/-- Whether the last description announced further pages. -/
def sent_more (self : OspfExchange L) : Bool :=
  match self.last_dd with
  | some (.DatabaseDescription _ _ flags _ _) => flags &&& 2 ≠ 0
  | _ => false

/-- A description while the roles are being negotiated. -/
def negotiate (self : OspfExchange L) (flags : UInt8) (sequence : UInt32) (headers : List (Header L))
    (database : Database L) (now : SimTime) : OspfExchange L × List (OspfBody L) :=
  if ¬ self.master ∧ flags = 7 ∧ headers.isEmpty then
    let sent := next_dd { self with sequence := sequence, state := .Exchange } now
    (sent.1,[sent.2])
  else if self.master ∧ flags &&& 5 = 0 ∧ sequence = self.sequence then
    let heard := request_headers { self with state := .Exchange } headers database
    let sent := next_dd { heard with sequence := heard.sequence + 1 } now
    (sent.1,[sent.2])
  else (self,[])

/-- A description in its turn: the headers are noted and the next page follows. -/
def take_page (self : OspfExchange L) (flags : UInt8) (sequence : UInt32) (headers : List (Header L))
    (database : Database L) (now : SimTime) : OspfExchange L × List (OspfBody L) :=
  let heard := self.request_headers headers database
  if heard.master then
    if ¬ heard.sent_more ∧ flags &&& 2 = 0 then heard.finish now
    else
      let sent := next_dd { heard with sequence := heard.sequence + 1 } now
      (sent.1,[sent.2])
  else
    let sent := next_dd { heard with sequence := sequence } now
    if sent.1.offset = sent.1.summary.length ∧ flags &&& 2 = 0 then
      let finished := sent.1.finish now
      (finished.1,sent.2 :: finished.2)
    else (sent.1,[sent.2])

/-- The sequence number that the next description must carry. -/
def expected (self : OspfExchange L) : UInt32 := if self.master then self.sequence else self.sequence + 1

def receive_dd (self : OspfExchange L) (mtu : UInt16) (options : UInt32) (flags : UInt8) (sequence : UInt32)
    (headers : List (Header L)) (database : Database L) (now : SimTime) : OspfExchange L × List (OspfBody L) :=
  if self.mtu < mtu ∨ flags &&& ~~~7 ≠ 0 ∨ options &&& OPTIONS L ≠ OPTIONS L then (self,[])
  else if self.state = .ExStart then self.negotiate flags sequence headers database now
  else if ¬ self.can_exchange then (self,[])
  else if ¬ self.master ∧ sequence = self.sequence then (self,self.last_dd.toList)
  else if self.master ∧ (self.state = .Loading ∨ self.state = .Full) ∧ sequence = self.sequence ∧ flags &&& 5 = 0 then
    (self,[])
  -- The master discards a duplicate slave acknowledgment; its timer resends if needed.
  else if self.master ∧ sequence = self.sequence - 1 then (self,[])
  else if flags &&& 4 ≠ 0 ∨ decide (flags &&& 1 ≠ 0) = self.master ∨ sequence ≠ self.expected ∨ self.state ≠ .Exchange then
    let sent := self.restart database now
    (sent.1,[sent.2])
  else self.take_page flags sequence headers database now

/-- Answer the requested keys in order; an unknown one restarts the exchange. -/
def receive_request (database : Database L) (now : SimTime) :
    OspfExchange L → List (OspfBody L) → List (Key L) → OspfExchange L × List (OspfBody L)
  | self,packets,[] => (self,packets)
  | self,packets,wanted :: rest =>
    match database.get? wanted with
    | none =>
      let sent := self.restart database now
      (sent.1,[sent.2])
    | some lsa =>
      let flooded := self.flood lsa now
      receive_request database now flooded.1 (packets ++ flooded.2.toList) rest

/-- What an update has led to so far. -/
structure Updating (L : Type) [ExchangeAdvertisement L] where
  exchange : OspfExchange L
  ack : List (Header L)
  packets : List (OspfBody L)
  advertisements : List L

/-- One advertisement of an update. -/
def update_lsa (database : Database L) (now : SimTime) (s : Updating L) (lsa : L) : Updating L :=
  match header lsa with
  | .error _ => s
  | .ok h =>
    let request := s.exchange.requests.get? (header_key h)
    if request.any (fun request => ExchangeAdvertisement.compare h request = .lt) then s
    else
      let exchange := if request.isSome then { s.exchange with requests := s.exchange.requests.erase (header_key h) } else s.exchange
      let old := database.get? (header_key h)
      if (old.bind (fun lsa => (header lsa).toOption)).all (fun old => ExchangeAdvertisement.compare h old ≠ .lt) then
        { s with exchange := exchange, ack := s.ack ++ [h], advertisements := s.advertisements ++ [lsa] }
      else
        match old with
        | none => { s with exchange := exchange }
        | some lsa =>
          let flooded := exchange.flood lsa now
          { s with exchange := flooded.1, packets := s.packets ++ flooded.2.toList }

def receive_update (self : OspfExchange L) (lsas : List L) (database : Database L) (now : SimTime) :
    OspfExchange L × OspfExchangeResult L :=
  let done := lsas.foldl (update_lsa database now) ⟨self,[],[],[]⟩
  let size := max ((done.exchange.mtu.toNat - (PACKET_OVERHEAD L).toNat) / 20) 1
  (if done.exchange.state = .Loading ∧ done.exchange.requests.isEmpty then { done.exchange with state := .Full }
   else done.exchange,
    ⟨done.packets ++ (chunks size done.ack).map OspfBody.LinkStateAck,done.advertisements⟩)

/-- One acknowledged header clears the update it belongs to. -/
def ack_header (retransmit : OrderedMap (Key L) (L × SimTime)) (h : Header L) : OrderedMap (Key L) (L × SimTime) :=
  if ((retransmit.get? (header_key h)).bind (fun sent => (header sent.1).toOption)).any
      (fun sent => ExchangeAdvertisement.compare h sent = .eq) then retransmit.erase (header_key h)
  else retransmit

def receive_ack (self : OspfExchange L) (headers : List (Header L)) : OspfExchange L :=
  { self with retransmit := headers.foldl ack_header self.retransmit }

/-- Consume an authenticated neighbor's body. The caller must first validate area and source. -/
def receive (self : OspfExchange L) (body : OspfBody L) (database : Database L) (now : SimTime) :
    OspfExchange L × OspfExchangeResult L :=
  match body with
  | .DatabaseDescription mtu options flags sequence headers =>
    let done := self.receive_dd mtu options flags sequence headers database now
    (done.1,⟨done.2,[]⟩)
  | .LinkStateRequest keys =>
    if self.can_exchange then
      let done := receive_request database now self [] keys
      (done.1,⟨done.2,[]⟩)
    else (self,⟨[],[]⟩)
  | .LinkStateUpdate lsas => if self.can_exchange then self.receive_update lsas database now else (self,⟨[],[]⟩)
  | .LinkStateAck headers => if self.can_exchange then (self.receive_ack headers,⟨[],[]⟩) else (self,⟨[],[]⟩)
  | .Hello _ => (self,⟨[],[]⟩)

/-- Whether the description timer runs. -/
def dd_timer (self : OspfExchange L) : Bool := self.state = .ExStart ∨ (self.state = .Exchange ∧ self.master)

/-- Earliest active retransmission deadline for the owning simulator event queue. -/
def next_deadline (self : OspfExchange L) : Option SimTime :=
  ((if self.dd_timer then [self.dd_due] else []) ++ (if self.state = .Loading then [self.request_due] else []) ++
    self.retransmit.values.map (·.2)).min?

/-- Resend the last description when it is due. -/
def tick_dd (self : OspfExchange L) (now : SimTime) : OspfExchange L × List (OspfBody L) :=
  match self.last_dd with
  | none => (self,[])
  | some last =>
    if self.dd_timer ∧ self.dd_due ≤ now then ({ self with dd_due := retransmit_at now },[last]) else (self,[])

/-- Repeat the requests when they are due. -/
def tick_requests (self : OspfExchange L) (now : SimTime) : OspfExchange L × List (OspfBody L) :=
  if self.state = .Loading ∧ self.request_due ≤ now then
    ({ self with request_due := retransmit_at now },self.request_packets)
  else (self,[])

/-- Resend the updates that are due. -/
def tick_updates (self : OspfExchange L) (now : SimTime) : OspfExchange L × List (OspfBody L) :=
  ({ self with
    retransmit := self.retransmit.mapValues (fun _ sent => if sent.2 ≤ now then (sent.1,retransmit_at now) else sent) },
    (self.retransmit.values.filter (fun sent => sent.2 ≤ now)).map (fun sent => .LinkStateUpdate [sent.1]))

/-- Generate only due retransmissions. -/
def tick (self : OspfExchange L) (now : SimTime) : OspfExchange L × List (OspfBody L) :=
  let dd := self.tick_dd now
  let requests := dd.1.tick_requests now
  let updates := requests.1.tick_updates now
  (updates.1,dd.2 ++ requests.2 ++ updates.2)

end OspfExchange
end Rios.Ospf
