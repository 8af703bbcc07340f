import Rios.OspfV3
import Rios.OspfInvariants

/-!
# Exchange packets fit the link

The packets that an exchange hands to its owner over arbitrary runs: each of them fits
the link, and pages, requests and acknowledgments leave nothing out.
-/

namespace Rios.Ospf
open Rios.Machine Rios.Device Rios.Queue Rios.Wire

/-! ### Chunks -/

theorem flatten_take {α : Type} (size : Nat) (items : List α) (n : Nat) :
    ((List.range n).map (fun i => (items.drop (i * size)).take size)).flatten = items.take (n * size) := by
  induction n with
  | zero => simp
  | succ n ih =>
    rw [List.range_succ,List.map_append,List.flatten_append,ih,List.map_singleton,List.flatten_singleton,Nat.succ_mul,
      List.take_add]

/-- Chunks put together again are the items, each of them once and in order. -/
theorem chunks_flatten {α : Type} {size : Nat} (some_ : 0 < size) (items : List α) :
    (chunks size items).flatten = items := by
  rw [chunks,flatten_take]
  refine List.take_of_length_le ?_
  have := Nat.div_add_mod (items.length + size - 1) size
  have := Nat.mod_lt (items.length + size - 1) some_
  rw [Nat.mul_comm]
  omega

theorem chunk_length {α : Type} {size : Nat} {items chunk : List α} (member : chunk ∈ chunks size items) :
    chunk.length ≤ size := by
  obtain ⟨i,-,rfl⟩ := List.mem_map.mp member
  exact List.length_take_le ..

variable {L : Type} [ExchangeAdvertisement L]

/-- The keys that the request packets of a list ask for. -/
def requested (bodies : List (OspfBody L)) : List (Key L) :=
  bodies.flatMap (fun body => match body with | .LinkStateRequest keys => keys | _ => [])

/-- The headers that the acknowledgments of a list carry. -/
def acknowledged (bodies : List (OspfBody L)) : List (Header L) :=
  bodies.flatMap (fun body => match body with | .LinkStateAck headers => headers | _ => [])

/-- The description last heard, by flags and number, and the headers heard since the exchange began. -/
abbrev Heard.Pages (L : Type) [ExchangeAdvertisement L] := Option (UInt8 × UInt32) × List (Header L)

/-- A receiver's notes: a description with the initial flag begins again, one with the number of the last is a
repetition, and any other one is the next page. -/
def note (seen : Heard.Pages L) : OspfBody L → Heard.Pages L
  | .DatabaseDescription _ _ flags sequence headers =>
    if flags &&& 4 ≠ 0 then (some (flags,sequence),[])
    else if seen.1 = some (flags,sequence) then seen
    else (some (flags,sequence),seen.2 ++ headers)
  | _ => seen

/-- The headers of all pages of a list of packets since the exchange began. -/
def described (bodies : List (OspfBody L)) : List (Header L) := (bodies.foldl note (none,[])).2

/-- An update of this advertisement fits the link. -/
def Sendable (mtu : UInt16) (lsa : L) : Prop :=
  ∃ len, encoded_len lsa = .ok len ∧ (PACKET_OVERHEAD L).toNat + 4 + len ≤ mtu.toNat

/-- A body fits the link, by the overheads that the exchange computes with. -/
def OspfBody.Fits (mtu : UInt16) : OspfBody L → Prop
  | .Hello _ => False
  | .DatabaseDescription _ options flags _ headers =>
    options = OPTIONS L ∧ flags &&& ~~~7 = 0 ∧ (DD_OVERHEAD L).toNat + 20 * headers.length ≤ mtu.toNat
  | .LinkStateRequest keys => (PACKET_OVERHEAD L).toNat + 12 * keys.length ≤ mtu.toNat
  | .LinkStateUpdate lsas => ∃ lsa, lsas = [lsa] ∧ Sendable mtu lsa
  | .LinkStateAck headers => (PACKET_OVERHEAD L).toNat + 20 * headers.length ≤ mtu.toNat

/-- The link has room for one header of a description. -/
structure Room (L : Type) [ExchangeAdvertisement L] (mtu : UInt16) : Prop where
  page : (DD_OVERHEAD L).toNat + 20 ≤ mtu.toNat
  packet : (PACKET_OVERHEAD L).toNat ≤ (DD_OVERHEAD L).toNat

namespace OspfExchange

/-! ### What a run emits -/

/-- The packets that a call hands to the owner. -/
def emitted (self : OspfExchange L) : Operation L → List (OspfBody L)
  | .start database now => [(self.start database now).2]
  | .flood lsa now => (self.flood lsa now).2.toList
  | .receive body database now => (self.receive body database now).2.packets
  | .tick now => (self.tick now).2

/-- The advertisements that a call offers to the database. -/
def offered (self : OspfExchange L) : Operation L → List L
  | .receive body database now => (self.receive body database now).2.advertisements
  | _ => []

/-- All packets of a run. -/
def transcript (self : OspfExchange L) : List (Operation L) → List (OspfBody L)
  | [] => []
  | operation :: rest => self.emitted operation ++ (self.perform operation).transcript rest

/-- Whether a call asks for what is missing: when the summaries have been exchanged, and when the timer runs out. -/
def asks (self : OspfExchange L) (operation : Operation L) : Prop :=
  (self.perform operation).state = .Loading ∧
    (self.state ≠ .Loading ∨ ∃ now, operation = .tick now ∧ self.request_due ≤ now)

variable {x : OspfExchange L}

/-! ### The course of a description -/

/-- The same exchange as far as pages are concerned. -/
structure SamePages (x z : OspfExchange L) : Prop where
  mtu : z.mtu = x.mtu
  summary : z.summary = x.summary
  offset : z.offset = x.offset
  retransmit : z.retransmit = x.retransmit

/-- What a description leads to. -/
inductive Heeded (x : OspfExchange L) : OspfExchange L × List (OspfBody L) → Prop
  | silent : Heeded x (x,[])
  | repeated : Heeded x (x,x.last_dd.toList)
  | restarted (database : Database L) (now : SimTime) : Heeded x ((x.restart database now).1,[(x.restart database now).2])
  | page (z : OspfExchange L) (now : SimTime) (same : SamePages x z) (state : z.state = .Exchange)
      (fresh : x.state = .ExStart ∨ x.state = .Exchange ∧ z.sequence = x.sequence + 1) :
      Heeded x ((z.next_dd now).1,[(z.next_dd now).2])
  | lastPage (z : OspfExchange L) (now : SimTime) (same : SamePages x z) (state : z.state = .Exchange)
      (fresh : x.state = .Exchange ∧ z.sequence = x.sequence + 1)
      (whole : (z.next_dd now).1.offset = (z.next_dd now).1.summary.length) :
      Heeded x (((z.next_dd now).1.finish now).1,(z.next_dd now).2 :: ((z.next_dd now).1.finish now).2)
  | finished (z : OspfExchange L) (now : SimTime) (same : SamePages x z) (state : z.state = .Exchange)
    (before : x.state = .Exchange)
      (last : z.last_dd = x.last_dd) (sequence : z.sequence = x.sequence) (whole : x.sent_more = false) :
      Heeded x (z.finish now)

theorem heeded_take_page (exchanging : x.state = .Exchange) (flags : UInt8) (sequence : UInt32)
    (turn : sequence = x.expected) (headers : List (Header L)) (database : Database L) (now : SimTime) :
    Heeded x (x.take_page flags sequence headers database now) := by
  have same : SamePages x (x.request_headers headers database) := ⟨rfl,rfl,rfl,rfl⟩
  unfold take_page
  dsimp only
  split
  · rename_i master
    split
    · rename_i whole
      exact .finished _ now same exchanging exchanging rfl rfl (Bool.eq_false_iff.mpr whole.1)
    · exact .page { (x.request_headers headers database) with
        sequence := (x.request_headers headers database).sequence + 1 } now ⟨rfl,rfl,rfl,rfl⟩ exchanging
        (.inr ⟨exchanging,rfl⟩)
  · rename_i slave
    have next : sequence = x.sequence + 1 := by
      rw [turn,expected]
      exact if_neg slave
    split
    · rename_i whole
      exact .lastPage { (x.request_headers headers database) with sequence := sequence } now ⟨rfl,rfl,rfl,rfl⟩
        exchanging ⟨exchanging,next⟩ whole.1
    · exact .page { (x.request_headers headers database) with sequence := sequence } now ⟨rfl,rfl,rfl,rfl⟩
        exchanging (.inr ⟨exchanging,next⟩)

theorem heeded_negotiate (starting : x.state = .ExStart) (flags : UInt8) (sequence : UInt32) (headers : List (Header L))
    (database : Database L) (now : SimTime) : Heeded x (x.negotiate flags sequence headers database now) := by
  unfold negotiate
  split
  · exact .page { x with sequence := sequence, state := .Exchange } now ⟨rfl,rfl,rfl,rfl⟩ rfl (.inl starting)
  · split
    · exact .page { (request_headers { x with state := .Exchange } headers database) with
        sequence := x.sequence + 1 } now ⟨rfl,rfl,rfl,rfl⟩ rfl (.inl starting)
    · exact .silent

theorem receive_dd_heeded (x : OspfExchange L) (mtu : UInt16) (options : UInt32) (flags : UInt8) (sequence : UInt32)
    (headers : List (Header L)) (database : Database L) (now : SimTime) :
    Heeded x (x.receive_dd mtu options flags sequence headers database now) := by
  unfold receive_dd
  split
  · exact .silent
  · split
    · rename_i starting
      exact heeded_negotiate starting flags sequence headers database now
    · split
      · exact .silent
      · split
        · exact .repeated
        · split
          · exact .silent
          · split
            · exact .silent
            · split
              · exact .restarted database now
              · rename_i turn
                have exchanging : x.state = .Exchange := by
                  by_contra other
                  exact turn (.inr (.inr (.inr other)))
                have inTurn : sequence = x.expected := by
                  by_contra other
                  exact turn (.inr (.inr (.inl other)))
                exact heeded_take_page exchanging flags sequence inTurn headers database now

/-! ### Sizes -/

/-- What an exchange keeps to send again fits the link. -/
structure Sized (mtu : UInt16) (x : OspfExchange L) : Prop where
  mtu_eq : x.mtu = mtu
  last : ∀ body, x.last_dd = some body → body.Fits mtu
  updates : ∀ k sent, x.retransmit.get? k = some sent → Sendable mtu sent.1

/-- The outcome of a call that fits the link. -/
def Sends (mtu : UInt16) (outcome : OspfExchange L × List (OspfBody L)) : Prop :=
  outcome.1.Sized mtu ∧ ∀ body ∈ outcome.2, body.Fits mtu

variable {mtu : UInt16}

theorem sends_append {packets others : List (OspfBody L)} (before : ∀ body ∈ packets, body.Fits mtu)
    (sends : Sends mtu (x,others)) : Sends mtu (x,packets ++ others) := by
  refine ⟨sends.1,?_⟩
  intro body member
  rcases List.mem_append.mp member with first | second
  · exact before body first
  · exact sends.2 body second

theorem Sized.congr {y : OspfExchange L} (sized : x.Sized mtu) (same : y.mtu = x.mtu) (last : y.last_dd = x.last_dd)
    (updates : y.retransmit = x.retransmit) : y.Sized mtu where
  mtu_eq := same.trans sized.mtu_eq
  last := by rw [last]; exact sized.last
  updates := by rw [updates]; exact sized.updates

theorem send_dd_sends {flags : UInt8} {headers : List (Header L)} (same : x.mtu = mtu) (range : flags &&& ~~~7 = 0)
    (short : (DD_OVERHEAD L).toNat + 20 * headers.length ≤ mtu.toNat)
    (updates : ∀ k sent, x.retransmit.get? k = some sent → Sendable mtu sent.1) (now : SimTime) :
    Sends mtu ((x.send_dd flags headers now).1,[(x.send_dd flags headers now).2]) := by
  have fits : (x.send_dd flags headers now).2.Fits mtu := ⟨rfl,range,short⟩
  refine ⟨⟨same,?_,updates⟩,?_⟩
  · intro body last
    rw [← Option.some.inj last]
    exact fits
  · intro body member
    rw [List.mem_singleton.mp member]
    exact fits

theorem start_sends (room : Room L mtu) (same : x.mtu = mtu) (database : Database L) (now : SimTime) :
    Sends mtu ((x.start database now).1,[(x.start database now).2]) := by
  refine @send_dd_sends L _ { x with
    state := .ExStart,
    summary := snapshot database,
    offset := 0,
    requests := ∅,
    retransmit := ∅ } mtu 7 [] same (by decide) ?_ ?_ now
  · have := room.page
    rw [List.length_nil]
    omega
  · intro k sent found
    cases found

theorem page_flags_range (x : OspfExchange L) :
    x.page_flags &&& ~~~7 = 0 ∧ (x.page_flags &&& 2 = 0 ↔ x.summary.length ≤ x.page_end) := by
  unfold page_flags
  rw [← not_lt]
  cases x.master <;> by_cases more : x.page_end < x.summary.length <;>
    simp only [more,if_true,if_false,Bool.false_eq_true,not_true,not_false_eq_true,iff_false,iff_true] <;> decide

theorem next_dd_sends (room : Room L mtu) (sized : x.Sized mtu) (now : SimTime) :
    Sends mtu ((x.next_dd now).1,[(x.next_dd now).2]) := by
  refine @send_dd_sends L _ { x with offset := x.page_end } mtu _ _ sized.mtu_eq (page_flags_range x).1 ?_ sized.updates now
  have length : ((x.summary.take x.page_end).drop x.offset).length ≤ max ((x.mtu.toNat - (DD_OVERHEAD L).toNat) / 20) 1 := by
    rw [List.length_drop,List.length_take,page_end]
    omega
  have := room.page
  rw [sized.mtu_eq] at length
  omega

theorem request_packets_fit (room : Room L mtu) (sized : x.Sized mtu) : ∀ body ∈ x.request_packets, body.Fits mtu := by
  intro body member
  obtain ⟨keys,chunk,rfl⟩ := List.mem_map.mp member
  have short := chunk_length chunk
  have := room.page
  have := room.packet
  rw [sized.mtu_eq] at short
  show (PACKET_OVERHEAD L).toNat + 12 * keys.length ≤ mtu.toNat
  omega

theorem finish_sends (room : Room L mtu) (sized : x.Sized mtu) (now : SimTime) : Sends mtu (x.finish now) := by
  unfold finish
  split
  · refine ⟨sized.congr rfl rfl rfl,?_⟩
    intro body member
    cases member
  · exact ⟨sized.congr rfl rfl rfl,request_packets_fit room sized⟩

theorem SamePages.sized {z : OspfExchange L} (same : SamePages x z) (sized : x.Sized mtu) (now : SimTime)
    (room : Room L mtu) :
    Sends mtu ((z.next_dd now).1,[(z.next_dd now).2]) := by
  have page : Sized mtu { z with last_dd := none } := by
    refine ⟨same.mtu.trans sized.mtu_eq,?_,?_⟩
    · intro body last
      cases last
    · rw [same.retransmit]
      exact sized.updates
  exact next_dd_sends room page now

variable {outcome : OspfExchange L × List (OspfBody L)}

theorem heeded_sends (room : Room L mtu) (sized : x.Sized mtu) (heeded : Heeded x outcome) : Sends mtu outcome := by
  cases heeded with
  | silent =>
    refine ⟨sized,?_⟩
    intro body member
    cases member
  | repeated =>
    refine ⟨sized,?_⟩
    intro body member
    exact sized.last body (Option.mem_toList.mp member)
  | restarted database now => exact @start_sends L _ { x with sequence := x.sequence + 1 } mtu room sized.mtu_eq database now
  | page z now same state fresh => exact same.sized sized now room
  | lastPage z now same state fresh whole =>
    obtain ⟨paged,fits⟩ := same.sized sized now room
    exact sends_append fits (finish_sends room paged now)
  | finished z now same state before last sequence whole =>
    exact finish_sends room (sized.congr same.mtu last same.retransmit) now

theorem flood_sends (sized : x.Sized mtu) (lsa : L) (now : SimTime) :
    Sends mtu ((x.flood lsa now).1,(x.flood lsa now).2.toList) := by
  have quiet : Sends mtu (x,[]) := by
    refine ⟨sized,?_⟩
    intro body member
    cases member
  unfold flood
  split
  · exact quiet
  · cases same : encoded_len lsa with
    | error _ => exact quiet
    | ok len =>
      dsimp only
      split
      · exact quiet
      · rename_i room
        have sendable : Sendable mtu lsa := by
          refine ⟨len,same,?_⟩
          rw [← sized.mtu_eq]
          have := not_lt.mp (not_or.mp room).1
          omega
        refine ⟨⟨sized.mtu_eq,sized.last,?_⟩,?_⟩
        · intro k sent found
          dsimp only at found
          rw [OrderedMap.get?_insert] at found
          by_cases same : k = key lsa
          · rw [if_pos same] at found
            cases found
            exact sendable
          · rw [if_neg same] at found
            exact sized.updates k sent found
        · intro body member
          rw [List.mem_singleton.mp member]
          exact ⟨lsa,rfl,sendable⟩

theorem receive_request_sends (room : Room L mtu) (database : Database L) (now : SimTime) (keys : List (Key L)) :
    ∀ (x : OspfExchange L) (packets : List (OspfBody L)), x.Sized mtu → (∀ body ∈ packets, body.Fits mtu) →
      Sends mtu (receive_request database now x packets keys) := by
  induction keys with
  | nil => exact fun x packets sized fits => ⟨sized,fits⟩
  | cons wanted rest ih =>
    intro x packets sized fits
    unfold receive_request
    cases database.get? wanted with
    | none => exact @start_sends L _ { x with sequence := x.sequence + 1 } mtu room sized.mtu_eq database now
    | some lsa =>
      obtain ⟨after,more⟩ := sends_append fits (flood_sends sized lsa now)
      exact ih _ _ after more

theorem update_lsa_sends (database : Database L) (now : SimTime) (s : Updating L) (lsa : L)
    (sends : Sends mtu (s.exchange,s.packets)) :
    Sends mtu ((update_lsa database now s lsa).exchange,(update_lsa database now s lsa).packets) := by
  obtain ⟨after,erased,outcome⟩ := update_lsa_cases database now s lsa
  have sized : Sized mtu after := by
    rcases erased with rfl | ⟨key,rfl⟩
    · exact sends.1
    · exact sends.1.congr rfl rfl rfl
  rcases outcome with ⟨kept,packets⟩ | ⟨old,flooded,packets⟩
  · rw [kept,packets]
    exact ⟨sized,sends.2⟩
  · rw [flooded,packets]
    exact sends_append sends.2 (flood_sends sized old now)

theorem receive_update_sends (room : Room L mtu) (sized : x.Sized mtu) (lsas : List L) (database : Database L)
    (now : SimTime) :
    Sends mtu ((x.receive_update lsas database now).1,(x.receive_update lsas database now).2.packets) := by
  have run : ∀ (rest : List L) (s : Updating L), Sends mtu (s.exchange,s.packets) →
      Sends mtu ((rest.foldl (update_lsa database now) s).exchange,(rest.foldl (update_lsa database now) s).packets) := by
    intro rest
    induction rest with
    | nil => exact fun s sends => sends
    | cons lsa rest ih => exact fun s sends => ih _ (update_lsa_sends database now s lsa sends)
  obtain ⟨after,fits⟩ := run lsas ⟨x,[],[],[]⟩ ⟨sized,fun body member => by cases member⟩
  unfold receive_update
  dsimp only
  refine sends_append fits ⟨?_,?_⟩
  · split
    · exact after.congr rfl rfl rfl
    · exact after
  · intro body member
    obtain ⟨headers,chunk,rfl⟩ := List.mem_map.mp member
    have short := chunk_length chunk
    have := room.page
    have := room.packet
    rw [after.mtu_eq] at short
    show (PACKET_OVERHEAD L).toNat + 20 * headers.length ≤ mtu.toNat
    omega

theorem receive_sends (room : Room L mtu) (sized : x.Sized mtu) (body : OspfBody L) (database : Database L) (now : SimTime) :
    Sends mtu ((x.receive body database now).1,(x.receive body database now).2.packets) := by
  have quiet : ∀ y : OspfExchange L, y.Sized mtu → Sends mtu (y,[]) := by
    intro y after
    refine ⟨after,?_⟩
    intro body member
    cases member
  cases body with
  | Hello _ => exact quiet x sized
  | DatabaseDescription others options flags sequence headers =>
    exact heeded_sends room sized (receive_dd_heeded x others options flags sequence headers database now)
  | LinkStateRequest keys =>
    unfold receive
    dsimp only
    split
    · exact receive_request_sends room database now keys x [] sized (quiet x sized).2
    · exact quiet x sized
  | LinkStateUpdate lsas =>
    unfold receive
    dsimp only
    split
    · exact receive_update_sends room sized lsas database now
    · exact quiet x sized
  | LinkStateAck headers =>
    unfold receive
    dsimp only
    split
    · refine quiet _ ⟨sized.mtu_eq,sized.last,?_⟩
      intro k sent found
      exact sized.updates k sent ((ack_headers headers x.retransmit).2.1 k sent found)
    · exact quiet x sized

theorem tick_sends (room : Room L mtu) (sized : x.Sized mtu) (now : SimTime) : Sends mtu (x.tick now) := by
  obtain ⟨due,first⟩ := tick_dd_shape x now
  have dd : (x.tick_dd now).1.Sized mtu := by
    rw [first]
    exact sized.congr rfl rfl rfl
  obtain ⟨later,second⟩ := tick_requests_shape (x.tick_dd now).1 now
  have requests : ((x.tick_dd now).1.tick_requests now).1.Sized mtu := by
    rw [second]
    exact dd.congr rfl rfl rfl
  constructor
  · refine ⟨requests.mtu_eq,requests.last,?_⟩
    intro k sent found
    rw [show (x.tick now).1.retransmit = ((x.tick_dd now).1.tick_requests now).1.retransmit.mapValues
      (fun _ sent => if sent.2 ≤ now then (sent.1,retransmit_at now) else sent) from rfl,OrderedMap.get?_mapValues] at found
    obtain ⟨before,there,rfl⟩ := Option.map_eq_some_iff.mp found
    have own := requests.updates k before there
    by_cases now_due : before.2 ≤ now
    · rw [if_pos now_due]
      exact own
    · rw [if_neg now_due]
      exact own
  · intro body member
    rcases List.mem_append.mp member with earlier | updates
    · rcases List.mem_append.mp earlier with description | asked
      · unfold tick_dd at description
        split at description
        · cases description
        · rename_i last known
          split at description
          · rw [List.mem_singleton.mp description]
            exact sized.last last known
          · cases description
      · unfold tick_requests at asked
        split at asked
        · exact request_packets_fit room dd body asked
        · cases asked
    · obtain ⟨sent,listed,rfl⟩ := List.mem_map.mp updates
      obtain ⟨k,found⟩ := (OrderedMap.mem_values _ _).mp (List.mem_filter.mp listed).1
      exact ⟨sent.1,rfl,requests.updates k sent found⟩

/-- One call keeps to the link. -/
theorem perform_sends (room : Room L mtu) (sized : x.Sized mtu) (operation : Operation L) :
    Sends mtu (x.perform operation,x.emitted operation) := by
  cases operation with
  | start database now => exact start_sends room sized.mtu_eq database now
  | flood lsa now => exact flood_sends sized lsa now
  | receive body database now => exact receive_sends room sized body database now
  | tick now => exact tick_sends room sized now

/-- A run keeps to the link. -/
theorem transcript_fits (room : Room L mtu) (operations : List (Operation L)) :
    ∀ x : OspfExchange L, x.Sized mtu → ∀ body ∈ x.transcript operations, body.Fits mtu := by
  induction operations with
  | nil =>
    intro x _ body member
    cases member
  | cons operation rest ih =>
    intro x sized body member
    obtain ⟨after,fits⟩ := perform_sends room sized operation
    rcases List.mem_append.mp member with first | later
    · exact fits body first
    · exact ih _ after body later

theorem sized_new (here peer : Ipv4Addr) (mtu : UInt16) (sequence : UInt32) :
    (new here peer mtu sequence : OspfExchange L).Sized mtu where
  mtu_eq := rfl
  last := fun body last => by cases last
  updates := fun k sent found => by cases found

/-! ### Pages -/

/-- The flags and the number of a description. -/
def numbered : OspfBody L → Option (UInt8 × UInt32)
  | .DatabaseDescription _ _ flags sequence _ => some (flags,sequence)
  | _ => none

/-- What a receiver has noted of an exchange. -/
structure Talking (seen : Heard.Pages L) (x : OspfExchange L) : Prop where
  number : x.last_dd.map numbered = seen.1.map some
  sequence : ∀ flags number, seen.1 = some (flags,number) → number = x.sequence
  pages : seen.2 = x.summary.take x.offset
  bounded : x.offset ≤ x.summary.length
  starting : x.state = .ExStart → x.offset = 0 ∧ ∀ flags number, seen.1 = some (flags,number) → flags &&& 4 ≠ 0
  more : x.state ≠ .ExStart → ∃ flags number, seen.1 = some (flags,number) ∧ flags &&& 4 = 0 ∧
    (flags &&& 2 = 0 ↔ x.summary.length ≤ x.offset)
  done : x.state = .Loading ∨ x.state = .Full → x.summary.length ≤ x.offset

/-- The same exchange as far as its pages are noted. -/
structure Level (x y : OspfExchange L) : Prop where
  last_dd : y.last_dd = x.last_dd
  sequence : y.sequence = x.sequence
  summary : y.summary = x.summary
  offset : y.offset = x.offset
  starting : y.state = .ExStart ↔ x.state = .ExStart
  done : y.state = .Loading ∨ y.state = .Full → x.state = .Loading ∨ x.state = .Full

theorem Level.refl (x : OspfExchange L) : Level x x := ⟨rfl,rfl,rfl,rfl,Iff.rfl,id⟩

theorem Level.of_state {y : OspfExchange L} (last_dd : y.last_dd = x.last_dd) (sequence : y.sequence = x.sequence)
    (summary : y.summary = x.summary) (offset : y.offset = x.offset) (state : y.state = x.state) : Level x y :=
  ⟨last_dd,sequence,summary,offset,by rw [state],by rw [state]; exact id⟩

theorem Level.trans {y z : OspfExchange L} (first : Level x y) (second : Level y z) : Level x z :=
  ⟨second.last_dd.trans first.last_dd,second.sequence.trans first.sequence,second.summary.trans first.summary,
    second.offset.trans first.offset,second.starting.trans first.starting,fun ends => first.done (second.done ends)⟩

variable {seen : Heard.Pages L}

theorem Talking.level {y : OspfExchange L} (talking : Talking seen x) (level : Level x y) : Talking seen y where
  number := by rw [level.last_dd]; exact talking.number
  sequence := by rw [level.sequence]; exact talking.sequence
  pages := by rw [level.summary,level.offset]; exact talking.pages
  bounded := by rw [level.summary,level.offset]; exact talking.bounded
  starting := by rw [level.starting,level.offset]; exact talking.starting
  more := by rw [ne_eq,level.starting,level.summary,level.offset]; exact talking.more
  done := by rw [level.summary,level.offset]; exact fun ends => talking.done (level.done ends)

theorem note_plain {packets : List (OspfBody L)} (plain : ∀ body ∈ packets, Plain body) :
    packets.foldl note seen = seen := by
  induction packets with
  | nil => rfl
  | cons body rest ih =>
    have same : note seen body = seen := by
      have one := plain body List.mem_cons_self
      cases body with
      | DatabaseDescription _ _ _ _ _ => exact one.elim
      | _ => rfl
    rw [List.foldl_cons,same]
    exact ih fun other member => plain other (List.mem_cons_of_mem body member)

/-- A repetition is noted as one. -/
theorem note_repeated (talking : Talking seen x) {last : OspfBody L} (known : x.last_dd = some last) :
    note seen last = seen := by
  have number := talking.number
  rw [known] at number
  obtain ⟨⟨flags,sequence⟩,first,same⟩ := Option.map_eq_some_iff.mp number.symm
  obtain ⟨heard,headers⟩ := seen
  dsimp only at first
  subst first
  cases last with
  | DatabaseDescription mtu options flags' sequence' others =>
    cases same
    by_cases initial : flags &&& 4 ≠ 0
    · have starting : x.state = .ExStart := by
        by_contra other
        obtain ⟨_,_,equal,clear,-⟩ := talking.more other
        cases equal
        exact initial clear
      have none : headers = [] := by
        have pages := talking.pages
        rw [(talking.starting starting).1] at pages
        exact pages
      rw [note,if_pos initial,none]
    · rw [note,if_neg initial,if_pos rfl]
  | _ => cases same

/-- The start of an exchange begins the notes again. -/
theorem start_talks (seen : Heard.Pages L) (x : OspfExchange L) (database : Database L) (now : SimTime) :
    Talking (note seen (x.start database now).2) (x.start database now).1 := by
  have first : note seen (x.start database now).2 = (some (7,x.sequence),[]) := rfl
  rw [first]
  refine ⟨rfl,?_,rfl,Nat.zero_le _,?_,?_,?_⟩
  · intro flags number same
    cases same
    rfl
  · intro _
    refine ⟨rfl,?_⟩
    intro flags number same
    cases same
    decide
  · intro other
    exact absurd rfl other
  · intro ends
    rcases ends with wrong | wrong <;> cases wrong

/-- The next page is noted as one. -/
theorem page_talks (talking : Talking seen x) {z : OspfExchange L} (same : SamePages x z) (state : z.state = .Exchange)
    (fresh : x.state = .ExStart ∨ x.state = .Exchange ∧ z.sequence = x.sequence + 1) (now : SimTime) :
    Talking (note seen (z.next_dd now).2) (z.next_dd now).1 := by
  have unheard : seen.1 ≠ some (z.page_flags,z.sequence) := by
    intro heard
    rcases fresh with starting | ⟨-,next⟩
    · exact (talking.starting starting).2 _ _ heard (page_flags_init z)
    · have number := talking.sequence _ _ heard
      rw [next] at number
      have : x.sequence + 1 ≠ x.sequence := by
        intro wrong
        have bits := congrArg UInt32.toNat wrong
        rw [UInt32.toNat_add] at bits
        have := x.sequence.toNat_lt
        simp only [UInt32.toNat_one] at bits
        omega
      exact this number
  have ordered : z.offset ≤ z.page_end := by
    refine le_min (Nat.le_add_right _ _) ?_
    rw [same.offset,same.summary]
    exact talking.bounded
  have taken : note seen (z.next_dd now).2 = (some (z.page_flags,z.sequence),z.summary.take z.page_end) := by
    have page : (z.next_dd now).2 = .DatabaseDescription z.mtu (OPTIONS L) z.page_flags z.sequence
      ((z.summary.take z.page_end).drop z.offset) := rfl
    rw [page,note,if_neg (not_not.mpr (page_flags_init z)),if_neg unheard,talking.pages,← same.summary,← same.offset]
    refine Prod.ext rfl ?_
    have whole := List.take_append_drop z.offset (z.summary.take z.page_end)
    rw [List.take_take,min_eq_left ordered] at whole
    exact whole
  rw [taken]
  refine ⟨rfl,?_,rfl,page_end_le z,?_,?_,?_⟩
  · intro flags number equal
    cases equal
    rfl
  · intro starting
    rw [show (z.next_dd now).1.state = z.state from rfl,state] at starting
    cases starting
  · intro _
    exact ⟨_,_,rfl,page_flags_init z,(page_flags_range z).2⟩
  · intro ends
    rw [show (z.next_dd now).1.state = z.state from rfl,state] at ends
    rcases ends with wrong | wrong <;> cases wrong

theorem finish_plain (x : OspfExchange L) (now : SimTime) : ∀ body ∈ (x.finish now).2, Plain body := by
  intro body member
  unfold finish at member
  split at member
  · cases member
  · obtain ⟨keys,-,rfl⟩ := List.mem_map.mp member
    exact trivial

theorem finish_talks (talking : Talking seen x) (state : x.state = .Exchange) (whole : x.summary.length ≤ x.offset)
    (now : SimTime) : Talking ((x.finish now).2.foldl note seen) (x.finish now).1 := by
  have other : x.state ≠ .ExStart := by rw [state]; decide
  rw [note_plain (finish_plain x now)]
  unfold finish
  split
  · exact { talking with
      starting := fun wrong => by cases wrong
      more := fun _ => talking.more other
      done := fun _ => whole }
  · exact { talking with
      starting := fun wrong => by cases wrong
      more := fun _ => talking.more other
      done := fun _ => whole }

theorem heeded_talks (talking : Talking seen x) (heeded : Heeded x outcome) :
    Talking (outcome.2.foldl note seen) outcome.1 := by
  cases heeded with
  | silent => exact talking
  | repeated =>
    cases known : x.last_dd with
    | none => exact talking
    | some last =>
      rw [Option.toList_some,List.foldl_cons,List.foldl_nil,note_repeated talking known]
      exact talking
  | restarted database now => exact start_talks seen _ database now
  | page z now same state fresh => exact page_talks talking same state fresh now
  | lastPage z now same state fresh whole =>
    rw [List.foldl_cons]
    exact finish_talks (page_talks talking same state (.inr fresh) now) state whole.ge now
  | finished z now same state before last sequence whole =>
    have level : Level x z := ⟨last,sequence,same.summary,same.offset,by rw [state,before],by rw [state,before]; exact id⟩
    refine finish_talks (talking.level level) state ?_ now
    obtain ⟨flags,number,heard,-,pages⟩ := talking.more (by rw [before]; decide)
    rw [same.summary,same.offset,← pages]
    have known := talking.number
    rw [heard] at known
    obtain ⟨body,isLast,named⟩ := Option.map_eq_some_iff.mp known
    rw [sent_more,isLast] at whole
    cases body with
    | DatabaseDescription _ _ _ _ _ =>
      cases named
      simpa using whole
    | _ => cases named

theorem level_flood (x : OspfExchange L) (lsa : L) (now : SimTime) : Level x (x.flood lsa now).1 := by
  rcases flood_cases x lsa now with same | ⟨-,-,sent⟩
  · rw [same]
    exact .refl x
  · rw [sent]
    exact .of_state rfl rfl rfl rfl rfl

theorem flood_plain (x : OspfExchange L) (lsa : L) (now : SimTime) : ∀ body ∈ (x.flood lsa now).2.toList, Plain body := by
  intro body member
  rw [flood_packet (Option.mem_toList.mp member)]
  exact trivial

theorem receive_request_talks (database : Database L) (now : SimTime) (keys : List (Key L)) :
    ∀ (x : OspfExchange L) (packets : List (OspfBody L)), Talking seen x → (∀ body ∈ packets, Plain body) →
      Talking ((receive_request database now x packets keys).2.foldl note seen)
        (receive_request database now x packets keys).1 := by
  induction keys with
  | nil =>
    intro x packets talking plain
    rw [receive_request,note_plain plain]
    exact talking
  | cons wanted rest ih =>
    intro x packets talking plain
    unfold receive_request
    cases database.get? wanted with
    | none => exact start_talks seen _ database now
    | some lsa =>
      refine ih _ _ (talking.level (level_flood x lsa now)) ?_
      intro body member
      rcases List.mem_append.mp member with earlier | flooded
      · exact plain body earlier
      · exact flood_plain x lsa now body flooded

theorem level_update_lsa (database : Database L) (now : SimTime) (s : Updating L) (lsa : L) :
    Level s.exchange (update_lsa database now s lsa).exchange ∧
      ∀ body ∈ (update_lsa database now s lsa).packets, body ∈ s.packets ∨ ∃ lsas, body = .LinkStateUpdate lsas := by
  obtain ⟨after,erased,outcome⟩ := update_lsa_cases database now s lsa
  have level : Level s.exchange after := by
    rcases erased with rfl | ⟨key,rfl⟩
    · exact .refl _
    · exact .of_state rfl rfl rfl rfl rfl
  rcases outcome with ⟨kept,packets⟩ | ⟨old,flooded,packets⟩
  · rw [kept,packets]
    exact ⟨level,fun body member => .inl member⟩
  · rw [flooded,packets]
    refine ⟨level.trans (level_flood after old now),?_⟩
    intro body member
    rcases List.mem_append.mp member with earlier | sent
    · exact .inl earlier
    · exact .inr ⟨[old],flood_packet (Option.mem_toList.mp sent)⟩

theorem level_updates (database : Database L) (now : SimTime) (lsas : List L) :
    ∀ s : Updating L, (∀ body ∈ s.packets, ∃ lsas, body = .LinkStateUpdate lsas) →
      Level s.exchange (lsas.foldl (update_lsa database now) s).exchange ∧
        ∀ body ∈ (lsas.foldl (update_lsa database now) s).packets, ∃ lsas, body = .LinkStateUpdate lsas := by
  induction lsas with
  | nil => exact fun s updates => ⟨.refl _,updates⟩
  | cons lsa rest ih =>
    intro s updates
    obtain ⟨level,packets⟩ := level_update_lsa database now s lsa
    obtain ⟨after,others⟩ := ih (update_lsa database now s lsa) (fun body member => (packets body member).elim (updates body) id)
    exact ⟨level.trans after,others⟩

theorem receive_update_talks (talking : Talking seen x) (lsas : List L) (database : Database L) (now : SimTime) :
    Talking ((x.receive_update lsas database now).2.packets.foldl note seen) (x.receive_update lsas database now).1 := by
  obtain ⟨level,updates⟩ := level_updates database now lsas ⟨x,[],[],[]⟩ (fun body member => by cases member)
  have plain : ∀ body ∈ (x.receive_update lsas database now).2.packets, Plain body := by
    intro body member
    rcases List.mem_append.mp member with update | ack
    · obtain ⟨_,rfl⟩ := updates body update
      exact trivial
    · obtain ⟨_,-,rfl⟩ := List.mem_map.mp ack
      exact trivial
  rw [note_plain plain]
  refine talking.level (level.trans ?_)
  unfold receive_update
  dsimp only
  split
  · rename_i loaded
    exact ⟨rfl,rfl,rfl,rfl,by simp [loaded.1],fun _ => .inl loaded.1⟩
  · exact .refl _

theorem receive_talks (talking : Talking seen x) (body : OspfBody L) (database : Database L) (now : SimTime) :
    Talking ((x.receive body database now).2.packets.foldl note seen) (x.receive body database now).1 := by
  cases body with
  | Hello _ => exact talking
  | DatabaseDescription others options flags sequence headers =>
    exact heeded_talks talking (receive_dd_heeded x others options flags sequence headers database now)
  | LinkStateRequest keys =>
    unfold receive
    dsimp only
    split
    · exact receive_request_talks database now keys x [] talking (fun body member => by cases member)
    · exact talking
  | LinkStateUpdate lsas =>
    unfold receive
    dsimp only
    split
    · exact receive_update_talks talking lsas database now
    · exact talking
  | LinkStateAck headers =>
    unfold receive
    dsimp only
    split
    · exact talking.level (.of_state rfl rfl rfl rfl rfl)
    · exact talking

theorem level_tick (x : OspfExchange L) (now : SimTime) : Level x (x.tick now).1 := by
  obtain ⟨_,_,after⟩ := tick_shape x now
  rw [after]
  exact .of_state rfl rfl rfl rfl rfl

/-- A tick repeats the last description, or describes nothing. -/
theorem tick_talks (talking : Talking seen x) (now : SimTime) : Talking ((x.tick now).2.foldl note seen) (x.tick now).1 := by
  have description : (x.tick_dd now).2.foldl note seen = seen := by
    unfold tick_dd
    cases known : x.last_dd with
    | none => rfl
    | some last =>
      dsimp only
      split
      · exact note_repeated talking known
      · rfl
  have rest : ∀ body ∈ ((x.tick_dd now).1.tick_requests now).2 ++ ((((x.tick_dd now).1.tick_requests now).1).tick_updates now).2,
      Plain body := by
    intro body member
    rcases List.mem_append.mp member with asked | update
    · unfold tick_requests at asked
      split at asked
      · obtain ⟨_,-,rfl⟩ := List.mem_map.mp asked
        exact trivial
      · cases asked
    · obtain ⟨_,-,rfl⟩ := List.mem_map.mp update
      exact trivial
  have whole : (x.tick now).2 = (x.tick_dd now).2 ++ (((x.tick_dd now).1.tick_requests now).2 ++
    ((((x.tick_dd now).1.tick_requests now).1).tick_updates now).2) := List.append_assoc _ _ _
  rw [whole,List.foldl_append,description,note_plain rest]
  exact talking.level (level_tick x now)

theorem perform_talks (talking : Talking seen x) (operation : Operation L) :
    Talking ((x.emitted operation).foldl note seen) (x.perform operation) := by
  cases operation with
  | start database now => exact start_talks seen x database now
  | flood lsa now =>
    unfold emitted
    rw [note_plain (flood_plain x lsa now)]
    exact talking.level (level_flood x lsa now)
  | receive body database now => exact receive_talks talking body database now
  | tick now => exact tick_talks talking now

theorem transcript_talks (operations : List (Operation L)) : ∀ (x : OspfExchange L) (seen : Heard.Pages L), Talking seen x →
    Talking ((x.transcript operations).foldl note seen) (operations.foldl perform x) := by
  induction operations with
  | nil => exact fun x seen talking => talking
  | cons operation rest ih =>
    intro x seen talking
    rw [transcript,List.foldl_append,List.foldl_cons]
    exact ih _ _ (perform_talks talking operation)

theorem talking_new (here peer : Ipv4Addr) (mtu : UInt16) (sequence : UInt32) :
    Talking (none,[]) (new here peer mtu sequence : OspfExchange L) where
  number := rfl
  sequence := fun flags number same => by cases same
  pages := rfl
  bounded := le_rfl
  starting := fun _ => ⟨rfl,fun flags number same => by cases same⟩
  more := fun other => absurd rfl other
  done := fun _ => le_rfl

/-! ### Requests and acknowledgments -/

/-- A body that neither asks nor acknowledges. -/
def Quiet : OspfBody L → Prop
  | .LinkStateRequest _ => False
  | .LinkStateAck _ => False
  | _ => True

theorem requested_append (first second : List (OspfBody L)) :
    requested (first ++ second) = requested first ++ requested second := List.flatMap_append

theorem acknowledged_append (first second : List (OspfBody L)) :
    acknowledged (first ++ second) = acknowledged first ++ acknowledged second := List.flatMap_append

theorem quiet_none {packets : List (OspfBody L)} (quiet : ∀ body ∈ packets, Quiet body) :
    requested packets = [] ∧ acknowledged packets = [] := by
  constructor
  · refine List.flatMap_eq_nil_iff.mpr ?_
    intro body member
    have one := quiet body member
    cases body with
    | LinkStateRequest _ => exact one.elim
    | _ => rfl
  · refine List.flatMap_eq_nil_iff.mpr ?_
    intro body member
    have one := quiet body member
    cases body with
    | LinkStateAck _ => exact one.elim
    | _ => rfl

/-- The requests that are sent ask for every missing advertisement once. -/
theorem request_packets_all (x : OspfExchange L) :
    requested x.request_packets = x.requests.keys ∧ acknowledged x.request_packets = [] := by
  have size : 0 < max ((x.mtu.toNat - (PACKET_OVERHEAD L).toNat) / 12) 1 := by omega
  constructor
  · rw [request_packets,requested,List.flatMap_map]
    exact List.flatMap_id.trans (chunks_flatten size _)
  · rw [request_packets,acknowledged,List.flatMap_map]
    exact List.flatMap_eq_nil_iff.mpr fun _ _ => rfl

theorem finish_requested (x : OspfExchange L) (now : SimTime) :
    ((x.finish now).1.state = .Loading → requested (x.finish now).2 = (x.finish now).1.requests.keys) ∧
      ((x.finish now).1.state ≠ .Loading → requested (x.finish now).2 = []) ∧ acknowledged (x.finish now).2 = [] := by
  unfold finish
  split
  · refine ⟨?_,fun _ => rfl,rfl⟩
    intro wrong
    cases wrong
  · exact ⟨fun _ => (request_packets_all x).1,fun other => absurd rfl other,(request_packets_all x).2⟩

/-- Asking when the exchange of summaries ends, and not otherwise. -/
structure Asked (x : OspfExchange L) (outcome : OspfExchange L × List (OspfBody L)) : Prop where
  all : outcome.1.state = .Loading → x.state ≠ .Loading → requested outcome.2 = outcome.1.requests.keys
  none : ¬ (outcome.1.state = .Loading ∧ x.state ≠ .Loading) → requested outcome.2 = []

theorem Asked.of_quiet (quiet : ∀ body ∈ outcome.2, Quiet body)
    (still : outcome.1.state = .Loading → x.state = .Loading) : Asked x outcome where
  all := fun loading other => absurd (still loading) other
  none := fun _ => (quiet_none quiet).1

theorem last_quiet (talking : Talking seen x) {last : OspfBody L} (known : x.last_dd = some last) : Quiet last := by
  have number := talking.number
  rw [known] at number
  obtain ⟨_,-,same⟩ := Option.map_eq_some_iff.mp number.symm
  cases last with
  | DatabaseDescription _ _ _ _ _ => exact trivial
  | _ => cases same

theorem heeded_asked (talking : Talking seen x) (heeded : Heeded x outcome) :
    Asked x outcome ∧ acknowledged outcome.2 = [] := by
  have one : ∀ body : OspfBody L, Quiet body → ∀ other ∈ [body], Quiet other := by
    intro body quiet other member
    rw [List.mem_singleton.mp member]
    exact quiet
  cases heeded with
  | silent => exact ⟨.of_quiet (fun body member => by cases member) id,rfl⟩
  | repeated =>
    have quiet : ∀ body ∈ x.last_dd.toList, Quiet body := fun body member => last_quiet talking (Option.mem_toList.mp member)
    exact ⟨.of_quiet quiet id,(quiet_none quiet).2⟩
  | restarted database now =>
    have quiet := one (x.restart database now).2 trivial
    exact ⟨.of_quiet quiet (fun wrong => by cases wrong),(quiet_none quiet).2⟩
  | page z now same state fresh =>
    have quiet := one (z.next_dd now).2 trivial
    refine ⟨.of_quiet quiet ?_,(quiet_none quiet).2⟩
    intro wrong
    rw [show (z.next_dd now).1.state = z.state from rfl,state] at wrong
    cases wrong
  | lastPage z now same state fresh whole =>
    obtain ⟨all,none,acks⟩ := finish_requested (z.next_dd now).1 now
    have page := quiet_none (one (z.next_dd now).2 trivial)
    have front : ∀ rest : List (OspfBody L), requested ((z.next_dd now).2 :: rest) = requested rest ∧
        acknowledged ((z.next_dd now).2 :: rest) = acknowledged rest := by
      intro rest
      rw [← List.singleton_append,requested_append,acknowledged_append,page.1,page.2]
      exact ⟨rfl,rfl⟩
    refine ⟨⟨?_,?_⟩,(front _).2.trans acks⟩
    · exact fun loading _ => (front _).1.trans (all loading)
    · intro other
      refine (front _).1.trans (none ?_)
      intro loading
      exact other ⟨loading,by rw [fresh.1]; decide⟩
  | finished z now same state before last sequence whole =>
    obtain ⟨all,none,acks⟩ := finish_requested z now
    refine ⟨⟨fun loading _ => all loading,?_⟩,acks⟩
    intro other
    refine none ?_
    intro loading
    exact other ⟨loading,by rw [before]; decide⟩

theorem flood_quiet (x : OspfExchange L) (lsa : L) (now : SimTime) : ∀ body ∈ (x.flood lsa now).2.toList, Quiet body := by
  intro body member
  rw [flood_packet (Option.mem_toList.mp member)]
  exact trivial

theorem receive_request_quiet (database : Database L) (now : SimTime) (keys : List (Key L)) :
    ∀ (x : OspfExchange L) (packets : List (OspfBody L)), (∀ body ∈ packets, Quiet body) →
      (∀ body ∈ (receive_request database now x packets keys).2, Quiet body) ∧
        ((receive_request database now x packets keys).1.state = .Loading → x.state = .Loading) := by
  induction keys with
  | nil => exact fun x packets quiet => ⟨quiet,id⟩
  | cons wanted rest ih =>
    intro x packets quiet
    unfold receive_request
    cases database.get? wanted with
    | none =>
      refine ⟨?_,fun wrong => by cases wrong⟩
      intro body member
      rw [List.mem_singleton.mp member]
      exact trivial
    | some lsa =>
      obtain ⟨others,loading⟩ := ih (x.flood lsa now).1 (packets ++ (x.flood lsa now).2.toList) (by
        intro body member
        rcases List.mem_append.mp member with earlier | flooded
        · exact quiet body earlier
        · exact flood_quiet x lsa now body flooded)
      refine ⟨others,?_⟩
      intro loads
      have still := loading loads
      rwa [(flood_state x lsa now).1] at still

/-- Every advertisement that is offered to the database is acknowledged. -/
theorem update_lsa_acks (database : Database L) (now : SimTime) (s : Updating L) (lsa : L)
    (same : s.ack.map Except.ok = s.advertisements.map header) :
    (update_lsa database now s lsa).ack.map Except.ok = (update_lsa database now s lsa).advertisements.map header := by
  unfold update_lsa
  cases read : header lsa with
  | error _ => exact same
  | ok h =>
    dsimp only
    split
    · exact same
    · split
      · rw [List.map_append,List.map_append,same,List.map_singleton,List.map_singleton,read]
      · cases database.get? (header_key h) with
        | none => exact same
        | some old => exact same

theorem receive_update_asked (x : OspfExchange L) (lsas : List L) (database : Database L) (now : SimTime) :
    requested (x.receive_update lsas database now).2.packets = [] ∧
      ((x.receive_update lsas database now).1.state = .Loading → x.state = .Loading) ∧
      (acknowledged (x.receive_update lsas database now).2.packets).map Except.ok =
        (x.receive_update lsas database now).2.advertisements.map header := by
  obtain ⟨level,updates⟩ := level_updates database now lsas ⟨x,[],[],[]⟩ (fun body member => by cases member)
  have cleared := cleared_updates database now lsas ⟨x,[],[],[]⟩
  have acks : ∀ (rest : List L) (s : Updating L), s.ack.map Except.ok = s.advertisements.map header →
      (rest.foldl (update_lsa database now) s).ack.map Except.ok =
        (rest.foldl (update_lsa database now) s).advertisements.map header := by
    intro rest
    induction rest with
    | nil => exact fun s same => same
    | cons lsa rest ih => exact fun s same => ih _ (update_lsa_acks database now s lsa same)
  have all := acks lsas ⟨x,[],[],[]⟩ rfl
  unfold receive_update
  dsimp only
  generalize lsas.foldl (update_lsa database now) ⟨x,[],[],[]⟩ = done at level updates cleared all
  have quiet : ∀ body ∈ done.packets, Quiet body := by
    intro body member
    obtain ⟨_,rfl⟩ := updates body member
    exact trivial
  have size : 0 < max ((done.exchange.mtu.toNat - (PACKET_OVERHEAD L).toNat) / 20) 1 := by omega
  refine ⟨?_,?_,?_⟩
  · rw [requested_append,(quiet_none quiet).1,List.nil_append,requested,List.flatMap_map]
    exact List.flatMap_eq_nil_iff.mpr fun _ _ => rfl
  · split
    · intro wrong
      cases wrong
    · intro loading
      rwa [cleared.state] at loading
  · rw [acknowledged_append,(quiet_none quiet).2,List.nil_append,acknowledged,List.flatMap_map,← all]
    exact congrArg _ (List.flatMap_id.trans (chunks_flatten size _))

/-- What a call asks for and what it acknowledges. -/
structure Whole (x : OspfExchange L) (operation : Operation L) : Prop where
  asked : x.asks operation → requested (x.emitted operation) = (x.perform operation).requests.keys
  silent : ¬ x.asks operation → requested (x.emitted operation) = []
  acks : (acknowledged (x.emitted operation)).map Except.ok = (x.offered operation).map header

theorem Whole.of_asked {operation : Operation L} (timed : ∀ now, operation ≠ .tick now)
    (asked : Asked x (x.perform operation,x.emitted operation))
    (acks : (acknowledged (x.emitted operation)).map Except.ok = (x.offered operation).map header) : Whole x operation := by
  refine ⟨?_,?_,acks⟩
  · rintro ⟨loading,other | ⟨now,wrong,-⟩⟩
    · exact asked.all loading other
    · exact absurd wrong (timed now)
  · intro silent
    exact asked.none fun both => silent ⟨both.1,.inl both.2⟩

theorem Whole.of_outcome {body : OspfBody L} {database : Database L} {now : SimTime}
    {outcome : OspfExchange L × OspfExchangeResult L} (same : x.receive body database now = outcome)
    (asked : Asked x (outcome.1,outcome.2.packets))
    (acks : (acknowledged outcome.2.packets).map Except.ok = outcome.2.advertisements.map header) :
    Whole x (.receive body database now) := by
  subst same
  exact .of_asked (fun _ wrong => by cases wrong) asked acks

theorem receive_whole (talking : Talking seen x) (body : OspfBody L) (database : Database L) (now : SimTime) :
    Whole x (.receive body database now) := by
  have nothing : ∀ y : OspfExchange L, (y.state = .Loading → x.state = .Loading) → Asked x (y,[]) :=
    fun y still => .of_quiet (fun body member => by cases member) still
  cases body with
  | Hello _ => exact .of_outcome rfl (nothing x id) rfl
  | DatabaseDescription others options flags sequence headers =>
    obtain ⟨asked,acks⟩ := heeded_asked talking (receive_dd_heeded x others options flags sequence headers database now)
    exact .of_outcome rfl asked (congrArg (List.map Except.ok) acks)
  | LinkStateRequest keys =>
    by_cases able : x.can_exchange = true
    · obtain ⟨quiet,still⟩ := receive_request_quiet database now keys x [] (fun body member => by cases member)
      exact .of_outcome (if_pos able) (.of_quiet quiet still) (congrArg (List.map Except.ok) (quiet_none quiet).2)
    · exact .of_outcome (if_neg able) (nothing x id) rfl
  | LinkStateUpdate lsas =>
    by_cases able : x.can_exchange = true
    · obtain ⟨none,still,acks⟩ := receive_update_asked x lsas database now
      exact .of_outcome (if_pos able) ⟨fun loading other => absurd (still loading) other,fun _ => none⟩ acks
    · exact .of_outcome (if_neg able) (nothing x id) rfl
  | LinkStateAck headers =>
    by_cases able : x.can_exchange = true
    · exact .of_outcome (if_pos able) (nothing _ id) rfl
    · exact .of_outcome (if_neg able) (nothing x id) rfl

theorem tick_whole (talking : Talking seen x) (now : SimTime) : Whole x (.tick now) := by
  obtain ⟨due,first⟩ := tick_dd_shape x now
  obtain ⟨_,_,after⟩ := tick_shape x now
  have description : requested (x.tick_dd now).2 = [] ∧ acknowledged (x.tick_dd now).2 = [] := by
    refine quiet_none ?_
    intro body member
    unfold tick_dd at member
    split at member
    · cases member
    · rename_i last known
      split at member
      · rw [List.mem_singleton.mp member]
        exact last_quiet talking known
      · cases member
  have updates : requested ((((x.tick_dd now).1.tick_requests now).1).tick_updates now).2 = [] ∧
      acknowledged ((((x.tick_dd now).1.tick_requests now).1).tick_updates now).2 = [] := by
    refine quiet_none ?_
    intro body member
    obtain ⟨_,-,rfl⟩ := List.mem_map.mp member
    exact trivial
  have whole : requested (x.tick now).2 = requested ((x.tick_dd now).1.tick_requests now).2 ∧
      acknowledged (x.tick now).2 = acknowledged ((x.tick_dd now).1.tick_requests now).2 := by
    rw [tick]
    dsimp only
    rw [requested_append,requested_append,acknowledged_append,acknowledged_append,description.1,description.2,updates.1,
      updates.2]
    exact ⟨List.append_nil _,List.append_nil _⟩
  have state : (x.perform (.tick now)).state = x.state := by
    rw [perform,after]
  have keys : (x.perform (.tick now)).requests = x.requests := by
    rw [perform,after]
  by_cases loading : x.state = .Loading ∧ x.request_due ≤ now
  · have packets : ((x.tick_dd now).1.tick_requests now).2 = (x.tick_dd now).1.request_packets := by
      rw [tick_requests,if_pos]
      rw [first]
      exact loading
    obtain ⟨all,acks⟩ := request_packets_all (x.tick_dd now).1
    refine ⟨?_,?_,?_⟩
    · intro _
      rw [keys]
      refine whole.1.trans ?_
      rw [packets,all,first]
    · intro silent
      exact absurd ⟨state.trans loading.1,.inr ⟨now,rfl,loading.2⟩⟩ silent
    · unfold emitted offered
      rw [whole.2,packets,acks]
      rfl
  · have packets : ((x.tick_dd now).1.tick_requests now).2 = [] := by
      rw [tick_requests,if_neg]
      rw [first]
      exact loading
    refine ⟨?_,?_,?_⟩
    · rintro ⟨loads,other | ⟨later,same,early⟩⟩
      · exact absurd (state.symm.trans loads) other
      · cases same
        exact absurd ⟨state.symm.trans loads,early⟩ loading
    · intro _
      refine whole.1.trans ?_
      rw [packets]
      rfl
    · unfold emitted offered
      rw [whole.2,packets]
      rfl

theorem perform_whole (talking : Talking seen x) (operation : Operation L) : Whole x operation := by
  cases operation with
  | start database now =>
    refine .of_asked (fun _ wrong => by cases wrong) (.of_quiet ?_ (fun wrong => by cases wrong)) rfl
    intro body member
    rw [List.mem_singleton.mp member]
    exact trivial
  | flood lsa now =>
    refine .of_asked (fun _ wrong => by cases wrong) (.of_quiet (flood_quiet x lsa now) ?_) ?_
    · intro loading
      exact (flood_state x lsa now).1.symm.trans loading
    · exact congrArg (List.map Except.ok) (quiet_none (flood_quiet x lsa now)).2
  | receive body database now => exact receive_whole talking body database now
  | tick now => exact tick_whole talking now

end OspfExchange
/-! ### The two versions -/

variable {mtu : UInt16}

theorem room_v2 (page : (DD_OVERHEAD Lsa).toNat + 20 ≤ mtu.toNat) : Room Lsa mtu := ⟨page,by decide⟩

theorem room_v3 (page : (DD_OVERHEAD OspfV3.OspfV3Lsa).toNat + 20 ≤ mtu.toNat) : Room OspfV3.OspfV3Lsa mtu :=
  ⟨page,by decide⟩

/-- An advertisement that is known to fit is appended. -/
theorem append_one (limit : Nat) {size : Nat} {encoded : Except WireError (List UInt8)} (front : List UInt8)
    (known : encoded.map List.length = .ok size) (fits : front.length + size ≤ limit) :
    ∃ body, append_lsa limit front encoded = .ok body ∧ body.length = front.length + size := by
  cases encoded with
  | error _ => cases known
  | ok bytes =>
    have length : bytes.length = size := Except.ok.inj known
    exact ⟨front ++ bytes,if_neg (by omega),by rw [List.length_append,length]⟩

/-- The encoder of version 2 agrees with the sizes that the exchange computes. -/
theorem v2_body_fits {body : OspfBody Lsa} (fits : body.Fits mtu) :
    ∃ kind bytes, body.encode = .ok (kind,bytes) ∧ 44 + bytes.length ≤ mtu.toNat := by
  have bound := mtu.toNat_lt
  have packet : (PACKET_OVERHEAD Lsa).toNat = 44 := rfl
  have page : (DD_OVERHEAD Lsa).toNat = 52 := rfl
  cases body with
  | Hello _ => exact fits.elim
  | DatabaseDescription others options flags sequence headers =>
    obtain ⟨rfl,range,short⟩ := fits
    have length := flatMap_length LsaHeader.encode_length headers
    have narrow : ¬ (255 : UInt32) < OPTIONS Lsa := by decide
    refine ⟨_,_,(if_neg ?_).trans (if_neg narrow),?_⟩
    · rintro (long | wide)
      · omega
      · exact wide range
    · simp only [List.length_append,length,be16_length,be32_length,List.length_cons,List.length_nil]
      omega
  | LinkStateRequest keys =>
    have short : (PACKET_OVERHEAD Lsa).toNat + 12 * keys.length ≤ mtu.toNat := fits
    have length := flatMap_length LsaKey.encode_length keys
    refine ⟨_,_,if_neg (by omega),?_⟩
    omega
  | LinkStateUpdate lsas =>
    obtain ⟨lsa,rfl,size,known,short⟩ := fits
    obtain ⟨bytes,whole,length⟩ := append_one (65535 - 24) (be32 (UInt32.ofNat 1)) known (by
      rw [be32_length]
      omega)
    rw [be32_length] at length
    refine ⟨4,bytes,?_,by omega⟩
    simp only [OspfBody.encode,List.length_singleton,List.foldlM_cons,List.foldlM_nil,whole]
    rfl
  | LinkStateAck headers =>
    have short : (PACKET_OVERHEAD Lsa).toNat + 20 * headers.length ≤ mtu.toNat := fits
    have length := flatMap_length LsaHeader.encode_length headers
    refine ⟨_,_,if_neg (by omega),?_⟩
    omega

theorem v2_fits {body : OspfBody Lsa} (fits : body.Fits mtu) (router_id : Ipv4Addr) (area : UInt32)
    (source destination : Ipv4Addr) :
    ∃ bytes, (⟨router_id,area,body⟩ : OspfV2Packet).transmitted source destination = some bytes ∧
      bytes.length ≤ mtu.toNat := by
  have bound := mtu.toNat_lt
  obtain ⟨kind,content,encoded,short⟩ := v2_body_fits fits
  obtain ⟨payload,packet,length⟩ := @OspfV2Packet.encode_length ⟨router_id,area,body⟩ kind content encoded (by omega)
  obtain ⟨bytes,whole,total⟩ := @Transport.Ipv4Packet.encode_length (OspfV2Packet.wrap source destination payload)
    (show (1 : UInt8) ≠ 0 by decide) (show 20 + payload.length ≤ 65535 by omega)
  refine ⟨bytes,?_,?_⟩
  · rw [OspfV2Packet.transmitted,packet]
    show (OspfV2Packet.wrap source destination payload).encode.toOption = some bytes
    rw [whole]
    rfl
  · have : (OspfV2Packet.wrap source destination payload).payload.length = payload.length := rfl
    omega

/-- The encoder of version 3 agrees with the sizes that the exchange computes. -/
theorem v3_body_fits {body : OspfBody OspfV3.OspfV3Lsa} (fits : body.Fits mtu) :
    ∃ kind bytes, OspfV3.encode_body body = .ok (kind,bytes) ∧ 56 + bytes.length ≤ mtu.toNat := by
  have bound := mtu.toNat_lt
  have packet : (PACKET_OVERHEAD OspfV3.OspfV3Lsa).toNat = 56 := rfl
  have page : (DD_OVERHEAD OspfV3.OspfV3Lsa).toNat = 68 := rfl
  cases body with
  | Hello _ => exact fits.elim
  | DatabaseDescription others options flags sequence headers =>
    obtain ⟨rfl,range,short⟩ := fits
    have length := flatMap_length OspfV3.OspfV3LsaHeader.encode_length headers
    have narrow : ¬ (0xffffff : UInt32) < OPTIONS OspfV3.OspfV3Lsa := by decide
    refine ⟨_,_,if_neg ?_,?_⟩
    · rintro (large | wide | long)
      · exact narrow large
      · exact wide range
      · omega
    · simp only [List.length_append,length,be16_length,be32_length,List.length_cons,List.length_nil]
      omega
  | LinkStateRequest keys =>
    have short : (PACKET_OVERHEAD OspfV3.OspfV3Lsa).toNat + 12 * keys.length ≤ mtu.toNat := fits
    have length := flatMap_length OspfV3.OspfV3LsaKey.encode_length keys
    refine ⟨_,_,if_neg (by omega),?_⟩
    omega
  | LinkStateUpdate lsas =>
    obtain ⟨lsa,rfl,size,known,short⟩ := fits
    obtain ⟨bytes,whole,length⟩ := append_one (65535 - 16) (be32 (UInt32.ofNat 1)) known (by
      rw [be32_length]
      omega)
    rw [be32_length] at length
    refine ⟨4,bytes,?_,by omega⟩
    simp only [OspfV3.encode_body,List.length_singleton,List.foldlM_cons,List.foldlM_nil,whole]
    rfl
  | LinkStateAck headers =>
    have short : (PACKET_OVERHEAD OspfV3.OspfV3Lsa).toNat + 20 * headers.length ≤ mtu.toNat := fits
    have length := flatMap_length OspfV3.OspfV3LsaHeader.encode_length headers
    refine ⟨_,_,if_neg (by omega),?_⟩
    omega

theorem v3_fits {body : OspfBody OspfV3.OspfV3Lsa} (fits : body.Fits mtu) (router_id : Ipv4Addr) (area : UInt32)
    (instance_id : UInt8) (source destination : Ipv6.Ipv6Addr) :
    ∃ bytes, (⟨router_id,area,instance_id,body⟩ : OspfV3.OspfV3Packet).transmitted source destination = some bytes ∧
      bytes.length ≤ mtu.toNat := by
  have bound := mtu.toNat_lt
  obtain ⟨kind,content,encoded,short⟩ := v3_body_fits fits
  obtain ⟨payload,packet,length⟩ := @OspfV3.OspfV3Packet.encode_length ⟨router_id,area,instance_id,body⟩ kind content encoded
    (by omega) source destination
  obtain ⟨bytes,whole,total⟩ := @Ipv6.Ipv6Packet.encode_length (OspfV3.OspfV3Packet.wrap source destination payload) rfl
    (show payload.length ≤ 65535 by omega)
  refine ⟨bytes,?_,?_⟩
  · rw [OspfV3.OspfV3Packet.transmitted,packet]
    show (OspfV3.OspfV3Packet.wrap source destination payload).encode.toOption = some bytes
    rw [whole]
    rfl
  · have : (OspfV3.OspfV3Packet.wrap source destination payload).payload.length = payload.length := rfl
    omega

namespace OspfExchange

/-- Pages, requests and acknowledgments of a run leave nothing out: the pages heard are the summary up to where the
exchange stands, and all of it once the summaries have been exchanged; a further call asks for everything missing or for
nothing, and acknowledges what it offers to the database. -/
structure Complete (self : OspfExchange L) (operations : List (Operation L)) : Prop where
  pages : described (self.transcript operations) = (operations.foldl perform self).summary.take (operations.foldl perform self).offset
  all : (operations.foldl perform self).state = .Loading ∨ (operations.foldl perform self).state = .Full →
    described (self.transcript operations) = (operations.foldl perform self).summary
  chunks : ∀ operation, Whole (operations.foldl perform self) operation

theorem complete_new (here peer : Ipv4Addr) (mtu : UInt16) (sequence : UInt32) (operations : List (Operation L)) :
    (new here peer mtu sequence).Complete operations := by
  have talking := transcript_talks operations _ _ (talking_new here peer mtu sequence : Talking (L := L) (none,[]) _)
  refine ⟨talking.pages,?_,fun operation => perform_whole talking operation⟩
  intro ends
  exact talking.pages.trans (List.take_of_length_le (talking.done ends))

/-- Every packet of every run fits the link when its interface sends it, in both versions of the protocol, and together
the packets say everything. -/
theorem packets_fit (here peer : Ipv4Addr) (mtu : UInt16) (sequence : UInt32) :
    ((DD_OVERHEAD Lsa).toNat + 20 ≤ mtu.toNat → ∀ operations : List (Operation Lsa),
      ∀ body ∈ (new here peer mtu sequence).transcript operations, ∀ router_id area source destination,
        ∃ bytes, (⟨router_id,area,body⟩ : OspfV2Packet).transmitted source destination = some bytes ∧
          bytes.length ≤ mtu.toNat) ∧
    ((DD_OVERHEAD OspfV3.OspfV3Lsa).toNat + 20 ≤ mtu.toNat → ∀ operations : List (Operation OspfV3.OspfV3Lsa),
      ∀ body ∈ (new here peer mtu sequence).transcript operations, ∀ router_id area instance_id source destination,
        ∃ bytes, (⟨router_id,area,instance_id,body⟩ : OspfV3.OspfV3Packet).transmitted source destination = some bytes ∧
          bytes.length ≤ mtu.toNat) ∧
    (∀ operations : List (Operation Lsa), (new here peer mtu sequence).Complete operations) ∧
    ∀ operations : List (Operation OspfV3.OspfV3Lsa), (new here peer mtu sequence).Complete operations := by
  refine ⟨?_,?_,complete_new here peer mtu sequence,complete_new here peer mtu sequence⟩
  · intro page operations body member router_id area source destination
    have fits := transcript_fits (room_v2 page) operations _ (sized_new here peer mtu sequence) body member
    exact v2_fits fits router_id area source destination
  · intro page operations body member router_id area instance_id source destination
    have fits := transcript_fits (room_v3 page) operations _ (sized_new here peer mtu sequence) body member
    exact v3_fits fits router_id area instance_id source destination

/-- What the interface has to say of one other router. -/
def told : Database Lsa := .ofList [(⟨.Router,3,3⟩,⟨0,2,3,3,1,.Router 0 [⟨0x0a000000,0xffffff00,.Stub,10⟩]⟩)]

/-- A slave fills the page that answers its master on the shortest link. -/
theorem packets_fit_page : ∃ bytes,
    (⟨1,0,.DatabaseDescription 72 2 0 9 [⟨0,2,⟨.Router,3,3⟩,1,6305,36⟩]⟩ : OspfV2Packet).transmitted 1 2 = some bytes ∧
      bytes.length ≤ 72 := by
  have page : (new 1 2 72 5).transcript [.start told 0,.receive (.DatabaseDescription 72 2 7 9 []) told 0] =
      [.DatabaseDescription 72 2 7 5 [],.DatabaseDescription 72 2 0 9 [⟨0,2,⟨.Router,3,3⟩,1,6305,36⟩]] := by rfl
  exact (packets_fit 1 2 72 5).1 (by decide) [.start told 0,.receive (.DatabaseDescription 72 2 7 9 []) told 0] _
    (page ▸ List.mem_cons_of_mem _ List.mem_cons_self) 1 0 1 2

end OspfExchange
end Rios.Ospf
