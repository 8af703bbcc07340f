import Rios.OspfExchange

/-!
# A restarted neighbour

One side of an adjacency is replaced by a fresh exchange while the other is
still in Exchange, Loading or Full. Every packet is delivered and both sides
tick; the phases say which packets then are on their way.
-/

namespace Rios.Ospf
open Rios.Machine Rios.Device Rios.Queue
variable {L : Type} [ExchangeAdvertisement L]

namespace OspfExchange

/-! ### What the calls of an exchange leave in place -/

/-- The calls of the owning device, with its database at the time. -/
inductive Operation (L : Type) [ExchangeAdvertisement L] where
  | start (database : Database L) (now : SimTime)
  | flood (lsa : L) (now : SimTime)
  | receive (body : OspfBody L) (database : Database L) (now : SimTime)
  | tick (now : SimTime)

def perform (self : OspfExchange L) : Operation L → OspfExchange L
  | .start database now => (self.start database now).1
  | .flood lsa now => (self.flood lsa now).1
  | .receive body database now => (self.receive body database now).1
  | .tick now => (self.tick now).1

/-- An exchange that some run of calls leads to. -/
def Reached (self : OspfExchange L) : Prop :=
  ∃ (here peer : Ipv4Addr) (mtu : UInt16) (sequence : UInt32) (operations : List (Operation L)),
    self = operations.foldl perform (new here peer mtu sequence)

/-- An exchange past ExStart has described a page; a slave's page answers the sequence it has. -/
def Described (self : OspfExchange L) : Prop :=
  self.can_exchange = true → ∃ flags sequence headers,
    self.last_dd = some (.DatabaseDescription self.mtu (OPTIONS L) flags sequence headers) ∧ flags &&& 4 = 0 ∧
      (self.master = false → flags &&& 1 = 0 ∧ flags &&& ~~~7 = 0 ∧ sequence = self.sequence)

/-- The same conversation: all that the peer can see of an exchange in its state. -/
structure SameTalk (x y : OspfExchange L) : Prop where
  master : y.master = x.master
  mtu : y.mtu = x.mtu
  sequence : y.sequence = x.sequence
  last_dd : y.last_dd = x.last_dd
  can_exchange : y.can_exchange = x.can_exchange
  starting : y.state = .ExStart ↔ x.state = .ExStart

theorem SameTalk.refl (self : OspfExchange L) : SameTalk self self :=
  ⟨rfl,rfl,rfl,rfl,rfl,Iff.rfl⟩

variable {x : OspfExchange L}

theorem SameTalk.of_state {y : OspfExchange L} (master : y.master = x.master) (mtu : y.mtu = x.mtu)
    (sequence : y.sequence = x.sequence) (last_dd : y.last_dd = x.last_dd) (state : y.state = x.state) : SameTalk x y where
  master := master
  mtu := mtu
  sequence := sequence
  last_dd := last_dd
  can_exchange := by rw [OspfExchange.can_exchange,OspfExchange.can_exchange,state]
  starting := by rw [state]

theorem SameTalk.trans {a b c : OspfExchange L} (first : SameTalk a b) (second : SameTalk b c) : SameTalk a c :=
  ⟨second.master.trans first.master,second.mtu.trans first.mtu,second.sequence.trans first.sequence,
    second.last_dd.trans first.last_dd,second.can_exchange.trans first.can_exchange,second.starting.trans first.starting⟩

variable {self : OspfExchange L}

theorem Described.of_sameTalk {other : OspfExchange L} (described : self.Described) (same : SameTalk self other) :
    other.Described := by
  intro able
  obtain ⟨flags,sequence,headers,last,clear,slave⟩ := described (same.can_exchange ▸ able)
  refine ⟨flags,sequence,headers,?_,clear,?_⟩
  · rw [same.last_dd,same.mtu,last]
  · rw [same.master,same.sequence]
    exact slave

theorem not_can_exchange (starting : self.state = .ExStart) : self.can_exchange = false := by
  simp [OspfExchange.can_exchange,starting]

theorem state_ne_exStart (able : self.can_exchange = true) : self.state ≠ .ExStart := by
  intro starting
  rw [not_can_exchange starting] at able
  cases able

theorem Described.of_exStart (starting : self.state = .ExStart) : self.Described := by
  intro able
  exact absurd starting (state_ne_exStart able)

theorem sameTalk_flood (self : OspfExchange L) (lsa : L) (now : SimTime) : SameTalk self (self.flood lsa now).1 := by
  unfold flood
  split
  · exact .refl self
  · cases encoded_len lsa with
    | error _ => exact .refl self
    | ok len =>
      dsimp only
      split
      · exact .refl self
      · exact .of_state rfl rfl rfl rfl rfl

variable {body : OspfBody L}

theorem flood_packet {lsa : L} {now : SimTime} (sent : (self.flood lsa now).2 = some body) :
    body = .LinkStateUpdate [lsa] := by
  unfold flood at sent
  split at sent
  · cases sent
  · cases len : encoded_len lsa with
    | error _ => rw [len] at sent; cases sent
    | ok len =>
      simp only [len] at sent
      split at sent
      · cases sent
      · exact (Option.some.inj sent).symm

theorem flood_exStart (starting : self.state = .ExStart) (lsa : L) (now : SimTime) :
    self.flood lsa now = (self,none) := by
  rw [flood,if_pos]
  simp [not_can_exchange starting]

theorem sameTalk_updates (self : OspfExchange L) (now : SimTime) : SameTalk self (self.tick_updates now).1 :=
  .of_state rfl rfl rfl rfl rfl

theorem sameTalk_requests (self : OspfExchange L) (now : SimTime) : SameTalk self (self.tick_requests now).1 := by
  unfold tick_requests
  split
  · show SameTalk self { self with request_due := retransmit_at now }
    exact .of_state rfl rfl rfl rfl rfl
  · exact .refl self

theorem sameTalk_tick_dd (self : OspfExchange L) (now : SimTime) : SameTalk self (self.tick_dd now).1 := by
  unfold tick_dd
  cases last : self.last_dd with
  | none => exact .refl self
  | some body =>
    dsimp only
    split
    · show SameTalk self { self with last_dd := some body, dd_due := retransmit_at now }
      exact .of_state rfl rfl rfl last.symm rfl
    · exact .refl self

theorem sameTalk_tick (self : OspfExchange L) (now : SimTime) : SameTalk self (self.tick now).1 :=
  ((sameTalk_tick_dd self now).trans (sameTalk_requests _ now)).trans (sameTalk_updates _ now)

/-- A body that is no database description. -/
def Plain : OspfBody L → Prop
  | .DatabaseDescription .. => False
  | _ => True

/-- A tick repeats the last description while its timer runs; everything else it sends is plain. -/
theorem tick_packets {now : SimTime} (sent : body ∈ (self.tick now).2) :
    (self.dd_timer = true ∧ self.last_dd = some body) ∨ Plain body := by
  simp only [tick,List.mem_append] at sent
  rcases sent with (description | requests) | updates
  · left
    unfold tick_dd at description
    cases last : self.last_dd with
    | none => rw [last] at description; cases description
    | some last_body =>
      simp only [last] at description
      split at description
      · rename_i due
        rw [List.mem_singleton.mp description]
        exact ⟨due.1,rfl⟩
      · cases description
  · right
    unfold tick_requests at requests
    split at requests
    · obtain ⟨keys,-,rfl⟩ := List.mem_map.mp requests
      exact trivial
    · cases requests
  · right
    obtain ⟨update,-,rfl⟩ := List.mem_map.mp updates
    exact trivial

theorem sameTalk_ack (self : OspfExchange L) (headers : List (Header L)) : SameTalk self (self.receive_ack headers) :=
  .of_state rfl rfl rfl rfl rfl

/-- One advertisement of an update may answer a request, and a stored instance that is newer is flooded. -/
theorem update_lsa_cases (database : Database L) (now : SimTime) (s : Updating L) (lsa : L) :
    ∃ after, (after = s.exchange ∨ ∃ key, after = { s.exchange with requests := s.exchange.requests.erase key }) ∧
      ((update_lsa database now s lsa).exchange = after ∧ (update_lsa database now s lsa).packets = s.packets ∨
        ∃ old, (update_lsa database now s lsa).exchange = (after.flood old now).1 ∧
          (update_lsa database now s lsa).packets = s.packets ++ (after.flood old now).2.toList) := by
  unfold update_lsa
  cases header lsa with
  | error _ => exact ⟨s.exchange,.inl rfl,.inl ⟨rfl,rfl⟩⟩
  | ok h =>
    dsimp only
    split
    · exact ⟨s.exchange,.inl rfl,.inl ⟨rfl,rfl⟩⟩
    · refine ⟨if (s.exchange.requests.get? (header_key h)).isSome = true then
          { s.exchange with requests := s.exchange.requests.erase (header_key h) } else s.exchange,?_,?_⟩
      · split
        · exact .inr ⟨_,rfl⟩
        · exact .inl rfl
      · split
        · exact .inl ⟨rfl,rfl⟩
        · cases database.get? (header_key h) with
          | none => exact .inl ⟨rfl,rfl⟩
          | some old => exact .inr ⟨old,rfl,rfl⟩

theorem sameTalk_update_lsa (database : Database L) (now : SimTime) (s : Updating L) (lsa : L) :
    SameTalk s.exchange (update_lsa database now s lsa).exchange := by
  obtain ⟨after,erased,outcome⟩ := update_lsa_cases database now s lsa
  have same : SameTalk s.exchange after := by
    rcases erased with rfl | ⟨key,rfl⟩
    · exact .refl _
    · exact .of_state rfl rfl rfl rfl rfl
  rcases outcome with ⟨kept,-⟩ | ⟨old,flooded,-⟩
  · rwa [kept]
  · rw [flooded]
    exact same.trans (sameTalk_flood after old now)

theorem sameTalk_update (self : OspfExchange L) (lsas : List L) (database : Database L) (now : SimTime) :
    SameTalk self (self.receive_update lsas database now).1 := by
  have folded : ∀ (rest : List L) (s : Updating L), SameTalk self s.exchange →
      SameTalk self (rest.foldl (update_lsa database now) s).exchange := by
    intro rest
    induction rest with
    | nil => intro s same; exact same
    | cons lsa rest ih => intro s same; exact ih _ (same.trans (sameTalk_update_lsa database now s lsa))
  have same := folded lsas ⟨self,[],[],[]⟩ (.refl self)
  unfold receive_update
  dsimp only
  split
  · rename_i loaded
    refine same.trans ⟨rfl,rfl,rfl,rfl,?_,?_⟩
    · simp [OspfExchange.can_exchange,loaded.1]
    · simp [loaded.1]
  · exact same

theorem start_state (self : OspfExchange L) (database : Database L) (now : SimTime) :
    (self.start database now).1.state = .ExStart := rfl

theorem request_sameTalk (database : Database L) (now : SimTime) (keys : List (Key L)) :
    ∀ (self : OspfExchange L) (packets : List (OspfBody L)),
      SameTalk self (receive_request database now self packets keys).1 ∨
        (receive_request database now self packets keys).1.state = .ExStart := by
  induction keys with
  | nil => intro self packets; exact .inl (.refl self)
  | cons wanted rest ih =>
    intro self packets
    unfold receive_request
    cases database.get? wanted with
    | none => exact .inr rfl
    | some lsa => exact (ih _ _).imp_left (sameTalk_flood self lsa now).trans

/-- The flags of a page: the role, and whether more pages follow. -/
def page_flags (self : OspfExchange L) : UInt8 :=
  (if self.master then 1 else 0) ||| if self.page_end < self.summary.length then 2 else 0

theorem page_flags_init (self : OspfExchange L) : self.page_flags &&& 4 = 0 := by
  unfold page_flags
  cases self.master <;> by_cases more : self.page_end < self.summary.length <;> simp only [more,if_true,if_false,
    Bool.false_eq_true] <;> decide

theorem page_flags_slave {self : OspfExchange L} (slave : self.master = false) :
    self.page_flags &&& 1 = 0 ∧ self.page_flags &&& ~~~7 = 0 ∧ self.page_flags &&& 5 = 0 := by
  unfold page_flags
  by_cases more : self.page_end < self.summary.length <;> simp only [more,slave,if_true,if_false,Bool.false_eq_true] <;> decide

theorem next_dd_packet (self : OspfExchange L) (now : SimTime) :
    ∃ headers, (self.next_dd now).2 = .DatabaseDescription self.mtu (OPTIONS L) self.page_flags self.sequence headers :=
  ⟨_,rfl⟩

/-- The page that a slave sends answers the sequence number it has. -/
theorem described_next_dd (self : OspfExchange L) (now : SimTime) : (self.next_dd now).1.Described := by
  intro _
  refine ⟨self.page_flags,_,_,rfl,page_flags_init self,?_⟩
  intro slave
  obtain ⟨role,range,-⟩ := @page_flags_slave L _ self slave
  exact ⟨role,range,rfl⟩

theorem sameTalk_finish (self : OspfExchange L) (now : SimTime) (exchanging : self.state = .Exchange) :
    SameTalk self (self.finish now).1 := by
  unfold finish
  split
  · refine ⟨rfl,rfl,rfl,rfl,?_,?_⟩ <;> simp [OspfExchange.can_exchange,exchanging]
  · refine ⟨rfl,rfl,rfl,rfl,?_,?_⟩ <;> simp [OspfExchange.can_exchange,exchanging]

theorem described_dd (described : self.Described) (mtu : UInt16) (options : UInt32) (flags : UInt8)
    (sequence : UInt32) (headers : List (Header L)) (database : Database L) (now : SimTime) :
    (self.receive_dd mtu options flags sequence headers database now).1.Described := by
  unfold receive_dd
  split
  · exact described
  · split
    · unfold negotiate
      split
      · exact described_next_dd _ now
      · split
        · exact described_next_dd _ now
        · exact described
    · split
      · exact described
      · split
        · exact described
        · split
          · exact described
          · split
            · exact described
            · split
              · exact .of_exStart rfl
              · rename_i turn
                have exchanging : self.state = .Exchange := by
                  by_contra other
                  exact turn (.inr (.inr (.inr other)))
                have heard : (self.request_headers headers database).Described := described
                unfold take_page
                dsimp only
                split
                · split
                  · exact heard.of_sameTalk (sameTalk_finish _ now exchanging)
                  · exact described_next_dd _ now
                · split
                  · exact (described_next_dd _ now).of_sameTalk (sameTalk_finish _ now exchanging)
                  · exact described_next_dd _ now

theorem described_perform (described : self.Described) (operation : Operation L) :
    (self.perform operation).Described := by
  cases operation with
  | start database now => exact .of_exStart rfl
  | flood lsa now => exact described.of_sameTalk (sameTalk_flood self lsa now)
  | tick now => exact described.of_sameTalk (sameTalk_tick self now)
  | receive body database now =>
    show (self.receive body database now).1.Described
    cases body with
    | Hello _ => exact described
    | DatabaseDescription mtu options flags sequence headers =>
      exact described_dd described mtu options flags sequence headers database now
    | LinkStateRequest keys =>
      unfold receive
      dsimp only
      split
      · rcases request_sameTalk database now keys self [] with same | starting
        · exact described.of_sameTalk same
        · exact .of_exStart starting
      · exact described
    | LinkStateUpdate lsas =>
      unfold receive
      dsimp only
      split
      · exact described.of_sameTalk (sameTalk_update self lsas database now)
      · exact described
    | LinkStateAck headers =>
      unfold receive
      dsimp only
      split
      · exact described.of_sameTalk (sameTalk_ack self headers)
      · exact described

theorem Reached.described (reached : self.Reached) : self.Described := by
  obtain ⟨here,peer,mtu,sequence,operations,rfl⟩ := reached
  have run : ∀ (rest : List (Operation L)) (x : OspfExchange L), x.Described → (rest.foldl perform x).Described := by
    intro rest
    induction rest with
    | nil => intro x described; exact described
    | cons operation rest ih => intro x described; exact ih _ (described_perform described operation)
  exact run operations _ (.of_exStart rfl)

/-! ### The two sides of a restart -/

/-- The description that opens an exchange. -/
def invitation (mtu : UInt16) (sequence : UInt32) : OspfBody L := .DatabaseDescription mtu (OPTIONS L) 7 sequence []

/-- A slave's page for a sequence number. -/
def Reply (mtu : UInt16) (sequence : UInt32) (body : OspfBody L) : Prop :=
  ∃ flags headers, body = .DatabaseDescription mtu (OPTIONS L) flags sequence headers ∧ flags &&& 5 = 0 ∧ flags &&& ~~~7 = 0

/-- The descriptions that a side in ExStart may react to, by its role. -/
def Welcome (master : Bool) (sequence : UInt32) : OspfBody L → Prop
  | .DatabaseDescription _ _ flags number _ => if master then flags &&& 5 = 0 ∧ number = sequence else flags = 7
  | _ => False

theorem Plain.unwelcome (plain : Plain body) (master : Bool) (sequence : UInt32) :
    ¬ Welcome master sequence body := by
  cases body <;> first | exact plain.elim | exact id

theorem invitation_unwelcome (mtu : UInt16) (number sequence : UInt32) :
    ¬ Welcome true sequence (invitation mtu number : OspfBody L) := by
  rintro ⟨flags,-⟩
  exact absurd flags (by decide)

/-- A side that has started and waits for an answer. -/
structure Inviting (mtu : UInt16) (sequence : UInt32) (x : OspfExchange L) : Prop where
  state : x.state = .ExStart
  mtu_eq : x.mtu = mtu
  sequence_eq : x.sequence = sequence
  last : x.last_dd = some (invitation mtu sequence)
  quiet : x.retransmit = ∅

/-- A side that stays in its conversation at a sequence number. -/
structure Standing (mtu : UInt16) (sequence : UInt32) (x : OspfExchange L) : Prop where
  able : x.can_exchange = true
  mtu_eq : x.mtu = mtu
  sequence_eq : x.sequence = sequence
  described : x.Described

theorem inviting_start (self : OspfExchange L) (database : Database L) (now : SimTime) :
    Inviting self.mtu self.sequence (self.start database now).1 := ⟨rfl,rfl,rfl,rfl,rfl⟩

variable {sequence : UInt32} {mtu : UInt16}

theorem Standing.of_sameTalk {y : OspfExchange L} (standing : Standing mtu sequence x) (same : SameTalk x y) :
    Standing mtu sequence y :=
  ⟨same.can_exchange.trans standing.able,same.mtu.trans standing.mtu_eq,same.sequence.trans standing.sequence_eq,
    standing.described.of_sameTalk same⟩

/-- Neither the role bit nor the init bit. -/
theorem flags_and_five {flags : UInt8} (clear : flags &&& 4 = 0) (client : flags &&& 1 = 0) : flags &&& 5 = 0 := by
  have each : ∀ bits : UInt8, bits &&& 4 = 0 → bits &&& 1 = 0 → bits &&& 5 = 0 := by decide +kernel
  exact each flags clear client

/-- A slave that stays in its conversation has its last page at hand. -/
theorem Standing.reply (standing : Standing mtu sequence x) (slave : x.master = false) :
    ∃ body, x.last_dd = some body ∧ Reply mtu sequence body := by
  obtain ⟨flags,number,headers,last,clear,role⟩ := standing.described standing.able
  obtain ⟨client,range,same⟩ := role slave
  refine ⟨_,last,flags,headers,?_,?_,range⟩
  · rw [same,standing.mtu_eq,standing.sequence_eq]
  · exact flags_and_five clear client

/-- What a side sends on its own while it stays: nothing its peer in ExStart would take. -/
theorem Standing.tick_unwelcome (standing : Standing mtu sequence x) {now : SimTime} (sent : body ∈ (x.tick now).2)
    (number : UInt32) :
    ¬ Welcome (!x.master) number body := by
  rcases tick_packets sent with ⟨timer,last⟩ | plain
  · obtain ⟨flags,_,headers,described,clear,-⟩ := standing.described standing.able
    rw [described] at last
    cases Option.some.inj last
    have master : x.master = true := by
      simp only [dd_timer,decide_eq_true_eq] at timer
      rcases timer with starting | ⟨-,master⟩
      · exact absurd starting (state_ne_exStart standing.able)
      · exact master
    rw [master]
    intro welcome
    have seven : flags = 7 := welcome
    rw [seven] at clear
    exact absurd clear (by decide)
  · exact plain.unwelcome _ _

theorem flood_unwelcome {lsa : L} {now : SimTime} (sent : body ∈ (x.flood lsa now).2.toList) (master : Bool)
    (number : UInt32) : ¬ Welcome master number body := by
  rw [flood_packet (Option.mem_toList.mp sent)]
  exact id

/-- Nothing is sent again where nothing waits for an acknowledgment. -/
theorem tick_updates_quiet (quiet : x.retransmit = ∅) (now : SimTime) :
    x.tick_updates now = (x,[]) := by
  have same : { x with retransmit := ∅ } = x := by rw [← quiet]
  rw [tick_updates,quiet]
  exact congrArg (fun y => (y,([] : List (OspfBody L)))) same

theorem tick_requests_exStart (starting : x.state = .ExStart) (now : SimTime) :
    x.tick_requests now = (x,[]) := by
  rw [tick_requests,if_neg]
  rintro ⟨loading,-⟩
  rw [starting] at loading
  cases loading

/-- A quiet side in ExStart has nothing but its description to repeat. -/
theorem tick_exStart {x : OspfExchange L} {now : SimTime} (starting : (x.tick_dd now).1.state = .ExStart)
    (quiet : (x.tick_dd now).1.retransmit = ∅) : x.tick now = x.tick_dd now := by
  rw [OspfExchange.tick]
  simp only [tick_requests_exStart starting,tick_updates_quiet quiet,List.append_nil]

theorem Inviting.with_due (inviting : Inviting mtu sequence x) (due : SimTime) :
    Inviting mtu sequence { x with dd_due := due } :=
  ⟨inviting.state,inviting.mtu_eq,inviting.sequence_eq,inviting.last,inviting.quiet⟩

/-- A tick repeats the invitation if it is due, and nothing else. -/
theorem Inviting.tick (inviting : Inviting mtu sequence x) (now : SimTime) :
    Inviting mtu sequence (x.tick now).1 ∧
      ((x.dd_due ≤ now ∧ (x.tick now).2 = [invitation mtu sequence]) ∨
        (now < x.dd_due ∧ (x.tick now).1.dd_due = x.dd_due ∧ (x.tick now).2 = [])) := by
  have timer : x.dd_timer = true := by simp [dd_timer,inviting.state]
  have again := inviting.with_due (retransmit_at now)
  by_cases due : x.dd_due ≤ now
  · have first : x.tick_dd now = ({ x with dd_due := retransmit_at now },[invitation mtu sequence]) := by
      rw [tick_dd,inviting.last]
      exact if_pos ⟨timer,due⟩
    have whole := @tick_exStart L _ x now (by rw [first]; exact again.state) (by rw [first]; exact again.quiet)
    rw [whole,first]
    exact ⟨again,.inl ⟨due,rfl⟩⟩
  · have first : x.tick_dd now = (x,[]) := by
      rw [tick_dd,inviting.last]
      exact if_neg (fun both => due both.2)
    have whole := @tick_exStart L _ x now (by rw [first]; exact inviting.state) (by rw [first]; exact inviting.quiet)
    rw [whole,first]
    exact ⟨inviting,.inr ⟨not_le.mp due,rfl,rfl⟩⟩

/-! ### What the two sides receive -/

/-- The answer to a description: one packet, or none. -/
theorem receive_description (x : OspfExchange L) (mtu : UInt16) (options : UInt32) (flags : UInt8) (sequence : UInt32)
    (headers : List (Header L)) (database : Database L) (now : SimTime) :
    x.receive (.DatabaseDescription mtu options flags sequence headers) database now =
      ((x.receive_dd mtu options flags sequence headers database now).1,
        ⟨(x.receive_dd mtu options flags sequence headers database now).2,[]⟩) := rfl

/-- In ExStart, what is not welcome is ignored. -/
theorem receive_unwelcome (starting : x.state = .ExStart) (unwelcome : ¬ Welcome x.master x.sequence body)
    (database : Database L) (now : SimTime) :
    x.receive body database now = (x,⟨[],[]⟩) := by
  have unable : ¬ x.can_exchange = true := by
    rw [not_can_exchange starting]
    exact Bool.false_ne_true
  cases body with
  | Hello _ => rfl
  | LinkStateRequest keys => rw [receive]; exact if_neg unable
  | LinkStateUpdate lsas => rw [receive]; exact if_neg unable
  | LinkStateAck headers => rw [receive]; exact if_neg unable
  | DatabaseDescription mtu options flags sequence headers =>
    have ignored : x.receive_dd mtu options flags sequence headers database now = (x,[]) := by
      unfold receive_dd
      split
      · rfl
      · rw [negotiate]
        cases role : x.master with
        | true =>
          rw [role] at unwelcome
          rw [if_neg (by simp),if_neg]
          rintro ⟨-,clear,same⟩
          exact unwelcome ⟨clear,same⟩
        | false =>
          rw [role] at unwelcome
          rw [if_neg,if_neg (by simp)]
          rintro ⟨-,seven,-⟩
          exact unwelcome seven
    rw [receive_description,ignored]

/-- In ExStart, a body is ignored or ends the state. -/
theorem receive_exStart (starting : x.state = .ExStart) (body : OspfBody L) (database : Database L) (now : SimTime) :
    x.receive body database now = (x,⟨[],[]⟩) ∨ (x.receive body database now).1.state = .Exchange := by
  by_cases welcome : Welcome x.master x.sequence body
  · cases body with
    | DatabaseDescription mtu options flags sequence headers =>
      rw [receive_description]
      unfold receive_dd
      split
      · exact .inl rfl
      · rw [negotiate]
        split
        · exact .inr rfl
        · split
          · exact .inr rfl
          · exact .inl rfl
    | _ => exact welcome.elim
  · exact .inl (receive_unwelcome starting welcome database now)

/-- A slave takes the sequence number of an invitation and answers with its first page. -/
theorem Inviting.receive_invitation (inviting : Inviting mtu sequence x) (slave : x.master = false) (number : UInt32)
    (database : Database L) (now : SimTime) :
    ∃ reply, (x.receive (invitation mtu number) database now).2.packets = [reply] ∧ Reply mtu number reply ∧
      Standing mtu number (x.receive (invitation mtu number) database now).1 ∧
      (x.receive (invitation mtu number) database now).1.master = false := by
  have taken : x.receive_dd mtu (OPTIONS L) 7 number [] database now =
      ((next_dd { x with sequence := number, state := .Exchange } now).1,
        [(next_dd { x with sequence := number, state := .Exchange } now).2]) := by
    unfold receive_dd
    rw [if_neg,if_pos inviting.state,negotiate,if_pos]
    · exact ⟨by simp [slave],rfl,rfl⟩
    · rintro (large | range | options)
      · exact absurd large (by rw [inviting.mtu_eq]; exact lt_irrefl mtu)
      · exact absurd range (by decide)
      · exact options (UInt32.and_self)
  rw [invitation,receive_description,taken]
  obtain ⟨-,range,five⟩ := @page_flags_slave L _ { x with sequence := number, state := .Exchange } slave
  obtain ⟨headers,page⟩ := next_dd_packet { x with sequence := number, state := .Exchange } now
  refine ⟨_,rfl,⟨_,headers,?_,five,range⟩,⟨rfl,inviting.mtu_eq,rfl,described_next_dd _ now⟩,slave⟩
  rw [page,inviting.mtu_eq]

/-- A master takes its slave's first page. -/
theorem Inviting.receive_reply (inviting : Inviting mtu sequence x) (master : x.master = true)
    (reply : Reply mtu sequence body) (database : Database L) (now : SimTime) :
    (x.receive body database now).1.state = .Exchange := by
  obtain ⟨flags,headers,rfl,clear,range⟩ := reply
  rw [receive_description]
  unfold receive_dd
  rw [if_neg,if_pos inviting.state,negotiate,if_neg (by simp [master]),if_pos ⟨master,clear,inviting.sequence_eq.symm⟩]
  · rfl
  · rintro (large | wide | options)
    · exact absurd large (by rw [inviting.mtu_eq]; exact lt_irrefl mtu)
    · exact wide range
    · exact options (UInt32.and_self)

/-- Whether an invitation makes the other side start over: a slave that stands at the same sequence number takes it for a
    repeated description, a master one before its own for a late acknowledgment. -/
def Heeds (x : OspfExchange L) (number : UInt32) : Prop :=
  if x.master then number ≠ x.sequence - 1 else number ≠ x.sequence

theorem Standing.receive_invitation (standing : Standing mtu sequence x) (number : UInt32) (database : Database L)
    (now : SimTime) :
    (Heeds x number → x.receive (invitation mtu number) database now =
        ((x.restart database now).1,⟨[(x.restart database now).2],[]⟩)) ∧
      (¬ Heeds x number → x.receive (invitation mtu number) database now =
        (x,⟨if x.master then [] else x.last_dd.toList,[]⟩)) := by
  have admitted : ¬ (x.mtu < mtu ∨ (7 : UInt8) &&& ~~~7 ≠ 0 ∨ OPTIONS L &&& OPTIONS L ≠ OPTIONS L) := by
    rintro (large | range | options)
    · exact absurd large (by rw [standing.mtu_eq]; exact lt_irrefl mtu)
    · exact absurd range (by decide)
    · exact options (UInt32.and_self)
  have able : ¬ ¬ x.can_exchange = true := not_not.mpr standing.able
  have opening : (7 : UInt8) &&& 4 ≠ 0 := by decide
  have late : ¬ (x.master = true ∧ (x.state = .Loading ∨ x.state = .Full) ∧ number = x.sequence ∧ (7 : UInt8) &&& 5 = 0) :=
    fun all => absurd all.2.2.2 (by decide)
  rw [invitation,receive_description]
  unfold receive_dd
  rw [if_neg admitted,if_neg (state_ne_exStart standing.able),if_neg able,if_neg late]
  cases role : x.master with
  | true =>
    rw [if_neg (by simp)]
    constructor
    · intro heeds
      rw [Heeds,role,if_pos rfl] at heeds
      rw [if_neg (fun both => heeds both.2),if_pos (.inl opening)]
    · intro deaf
      rw [Heeds,role,if_pos rfl,not_not] at deaf
      rw [if_pos ⟨rfl,deaf⟩]
      rfl
  | false =>
    constructor
    · intro heeds
      rw [Heeds,role,if_neg Bool.false_ne_true] at heeds
      rw [if_neg (fun both => heeds both.2),if_neg (fun both => Bool.false_ne_true both.1),if_pos (.inl opening)]
    · intro deaf
      rw [Heeds,role,if_neg Bool.false_ne_true,not_not] at deaf
      rw [if_pos ⟨Bool.false_ne_true,deaf⟩]
      rfl

end OspfExchange
end Rios.Ospf
