import Rios.BgpSession
import Rios.Deadlines
import Rios.OspfInvariants
import Rios.TcpRuntime

/-!
# Timers that move forward

After a call of `tick` nothing is due any more: every timer that stays armed was
not due, or was armed again for later. The end of virtual time, where sums
saturate, is the exception, and a TCP connection that has just given up.
-/

namespace Rios
open Rios.Machine Rios.Deadlines

/-- The last instant of virtual time, at which every later deadline saturates. -/
def END_OF_TIME : UInt64 := 0xffffffffffffffff

/-- A timer armed before the end of time lies ahead. -/
theorem lt_satAdd64 {now delay : UInt64} (early : now < END_OF_TIME) (positive : 0 < delay.toNat) :
    now < satAdd64 now delay := by
  rw [UInt64.lt_iff_toNat_lt,satAdd64_toNat]
  have bound : now.toNat < 2 ^ 64 - 1 := UInt64.lt_iff_toNat_lt.mp early
  omega

namespace Bgp

namespace BgpSession

/-- The session as a component of its owner. -/
def component : Component BgpSession SimTime := ⟨fun session now => (session.tick now).1,next_deadline⟩

/-- What the timers of a session rest on: none but the retry timer runs outside a
    connection, and a keepalive timer has at least a second to run. -/
structure Armed (session : BgpSession) : Prop where
  unconnected : session.retrying = true → session.hold_at = none ∧ session.keepalive_at = none
  configured : session.configured_hold_time = 0 ∨ 3 ≤ session.configured_hold_time.toNat
  negotiated : session.keepalive_at.isSome = true → 3 ≤ session.negotiated_hold_time.toNat

end BgpSession

/-- A validated OPEN has no hold time of one or two seconds. -/
theorem BgpOpen.validate_hold {opening : BgpOpen} (valid : opening.validate = .ok ()) :
    opening.hold_time = 0 ∨ 3 ≤ opening.hold_time.toNat := by
  unfold BgpOpen.validate at valid
  split at valid
  · cases valid
  · rename_i admitted
    by_cases zero : opening.hold_time = 0
    · exact .inl zero
    · right
      simp only [ne_eq,zero,not_false_eq_true,decide_true,Bool.true_and,decide_eq_true_eq,UInt16.not_lt] at admitted
      exact UInt16.le_iff_toNat_le.mp admitted

namespace BgpSession
variable {session : BgpSession}

/-- The hold time that two OPENs negotiate lasts three seconds, or there is none. -/
theorem negotiated_bound {mine peer : UInt16} (own : mine = 0 ∨ 3 ≤ mine.toNat) (other : peer = 0 ∨ 3 ≤ peer.toNat)
    (positive : min mine peer ≠ 0) : 3 ≤ (min mine peer).toNat := by
  rcases min_choice mine peer with least | least
  · rw [least] at positive ⊢
    exact own.resolve_left positive
  · rw [least] at positive ⊢
    exact other.resolve_left positive

variable {now : SimTime}

theorem next_keepalive_some (running : (session.next_keepalive now).keepalive_at.isSome = true) :
    session.negotiated_hold_time ≠ 0 := by
  intro zero
  rw [next_keepalive,if_neg (not_not.mpr zero)] at running
  cases running

theorem Armed.reset (armed : session.Armed) (error : Option BgpError) (now : SimTime) :
    ({ session with last_error := error }.reset now).Armed :=
  ⟨fun _ => ⟨rfl,rfl⟩,armed.configured,by simp [BgpSession.reset]⟩

theorem Armed.protocol_error (armed : session.Armed) (error : BgpError) (now : SimTime) :
    (session.protocol_error error now).1.Armed := armed.reset (some error) now

/-- Waiting for the peer again leaves the keepalive timer as it is. -/
theorem Armed.reset_hold (armed : session.Armed) (connected : session.retrying = false) (now : SimTime) :
    (session.reset_hold now).Armed := by
  refine ⟨fun retrying => ?_,armed.configured,armed.negotiated⟩
  rw [show (session.reset_hold now).retrying = session.retrying from rfl,connected] at retrying
  cases retrying

/-- An accepted OPEN arms the keepalive timer with a third of three seconds or more. -/
theorem Armed.receive_open (armed : session.Armed) (opening : BgpOpen) (now : SimTime) :
    (session.receive_open opening now).1.Armed := by
  unfold BgpSession.receive_open
  split
  · exact armed.protocol_error _ now
  · rename_i valid
    split_ifs
    · exact armed.protocol_error _ now
    · exact armed.protocol_error _ now
    · exact armed.protocol_error _ now
    · refine ⟨(by intro wrong; cases wrong),armed.configured,fun running => ?_⟩
      exact negotiated_bound armed.configured (BgpOpen.validate_hold valid) (next_keepalive_some running)

theorem Armed.receive (armed : session.Armed) (message : BgpMessage) (now : SimTime) :
    (session.receive message now).1.Armed := by
  cases message with
  | Notification code subcode data => exact armed.reset _ now
  | Open opening =>
    simp only [BgpSession.receive]
    split
    · exact armed.receive_open opening now
    · exact armed.protocol_error _ now
  | Keepalive =>
    simp only [BgpSession.receive]
    split
    · exact ⟨(by intro wrong; cases wrong),armed.configured,armed.negotiated⟩
    · rename_i established
      exact armed.reset_hold (by rw [retrying,established]) now
    · exact armed.protocol_error _ now
  | Update update =>
    simp only [BgpSession.receive]
    split
    · rename_i established
      exact armed.reset_hold (by rw [retrying,established]) now
    · exact armed.protocol_error _ now

/-- What a tick does: it tries to connect again, gives up, sends a keepalive, or nothing is due. -/
theorem tick_cases (session : BgpSession) (now : SimTime) :
    session.retrying = true ∧
      (session.tick now).1 = { session with state := .Connect, retry_at := satAdd64 now RETRY_US } ∨
    (session.tick now).1 = (session.protocol_error ⟨4,0⟩ now).1 ∨
    ¬ (session.retrying = true ∧ session.retry_at ≤ now) ∧ ¬ session.hold_at.any (· ≤ now) = true ∧
      (session.keepalive_at.any (· ≤ now) = true ∧ (session.tick now).1 = session.next_keepalive now ∨
        ¬ session.keepalive_at.any (· ≤ now) = true ∧ (session.tick now).1 = session) := by
  unfold BgpSession.tick
  by_cases retry : session.retrying = true ∧ session.retry_at ≤ now
  · rw [if_pos retry]
    exact .inl ⟨retry.1,rfl⟩
  rw [if_neg retry]
  by_cases expired : session.hold_at.any (· ≤ now) = true
  · rw [if_pos expired]
    exact .inr (.inl rfl)
  rw [if_neg expired]
  refine .inr (.inr ⟨retry,expired,?_⟩)
  by_cases due : session.keepalive_at.any (· ≤ now) = true
  · rw [if_pos due]
    exact .inl ⟨due,rfl⟩
  · rw [if_neg due]
    exact .inr ⟨due,rfl⟩

/-- A timer that is due is armed. -/
theorem isSome_of_due {timer : Option SimTime} (due : timer.any (· ≤ now) = true) :
    timer.isSome = true := by
  cases timer with
  | none => cases due
  | some deadline => rfl

theorem Armed.tick (armed : session.Armed) (now : SimTime) : (session.tick now).1.Armed := by
  rcases session.tick_cases now with ⟨retry,after⟩ | after | ⟨-,-,⟨due,after⟩ | ⟨-,after⟩⟩
  · rw [after]
    exact ⟨fun _ => armed.unconnected retry,armed.configured,armed.negotiated⟩
  · rw [after]
    exact armed.protocol_error _ now
  · rw [after]
    have running := isSome_of_due due
    refine ⟨fun retry => ?_,armed.configured,fun _ => armed.negotiated running⟩
    rw [(armed.unconnected retry).2] at running
    cases running
  · rw [after]
    exact armed

theorem Armed.apply (armed : session.Armed) (input : Input) (now : SimTime) : (session.apply input now).1.Armed := by
  cases input with
  | transport_connected => exact ⟨(by intro wrong; cases wrong),armed.configured,(by intro wrong; cases wrong)⟩
  | transport_failed => exact ⟨fun _ => ⟨rfl,rfl⟩,armed.configured,(by intro wrong; cases wrong)⟩
  | receive message => exact armed.receive message now
  | protocol_error error => exact armed.protocol_error error now
  | tick => exact armed.tick now

/-- A new session has no timer but the retry timer. -/
theorem armed_new {local_as remote_as : UInt32} {router_id : Device.Ipv4Addr} {hold_time : UInt16}
    (created : BgpSession.new local_as remote_as router_id hold_time now = .ok session) : session.Armed := by
  unfold BgpSession.new at created
  split at created
  · cases created
  · simp only at created
    split at created
    · cases created
    · rename_i valid
      cases created
      exact ⟨fun _ => ⟨rfl,rfl⟩,BgpOpen.validate_hold valid,(by intro wrong; cases wrong)⟩

theorem armed_run {start : BgpSession} {past : List Call} (fresh : start.Armed) (run : Run start past session) :
    session.Armed := by
  induction run with
  | new => exact fresh
  | call _ input now ih => exact ih.apply input now

/-- A session reports nothing before its timers. -/
theorem next_deadline_later {deadline : SimTime} (retry : session.retrying = true → now < session.retry_at)
    (hold : ∀ time ∈ session.hold_at, now < time) (keepalive : ∀ time ∈ session.keepalive_at, now < time)
    (earliest : session.next_deadline = some deadline) : now < deadline := by
  refine lt_min? earliest (fun time member => ?_)
  simp only [List.mem_append,Option.mem_toList] at member
  rcases member with (member | member) | member
  · by_cases waiting : session.retrying = true
    · rw [if_pos waiting,List.mem_singleton] at member
      rw [member]
      exact retry waiting
    · rw [if_neg waiting] at member
      cases member
  · exact hold time member
  · exact keepalive time member

theorem later_of_not_due {timer : Option SimTime} (quiet : ¬ timer.any (· ≤ now) = true) :
    ∀ time ∈ timer, now < time := by
  rintro time rfl
  simpa using quiet

/-- A number of seconds in microseconds does not overflow. -/
theorem seconds_positive {seconds : UInt16} (positive : 0 < seconds.toNat) : 0 < (seconds.toUInt64 * 1000000).toNat := by
  have bounded : seconds.toNat * 1000000 < 2 ^ 64 :=
    lt_of_lt_of_le (Nat.mul_lt_mul_of_pos_right seconds.toNat_lt (by decide)) (by decide)
  rw [UInt64.toNat_mul,UInt16.toNat_toUInt64,show (1000000 : UInt64).toNat = 1000000 from rfl,Nat.mod_eq_of_lt bounded]
  exact Nat.mul_pos positive (by decide)

/-- A timer that a tick arms again lies ahead. -/
theorem keepalive_later (early : now < END_OF_TIME) (long : 3 ≤ session.negotiated_hold_time.toNat) :
    ∀ time ∈ (session.next_keepalive now).keepalive_at, now < time := by
  intro time armedAt
  rw [next_keepalive] at armedAt
  split at armedAt
  · cases armedAt
    refine lt_satAdd64 early ?_
    refine seconds_positive ?_
    rw [UInt16.toNat_div]
    exact Nat.div_pos long (by decide)
  · cases armedAt

/-- Every timer that a tick leaves armed lies ahead. -/
theorem Armed.forward (armed : session.Armed) (early : now < END_OF_TIME) :
    Forward component session now := by
  intro deadline earliest
  rw [show component.next_deadline (component.tick session now) = (session.tick now).1.next_deadline from rfl] at earliest
  have again : now < satAdd64 now RETRY_US := lt_satAdd64 early (by decide)
  rcases session.tick_cases now with ⟨retry,ticked⟩ | ticked | ⟨waiting,hold,⟨due,ticked⟩ | ⟨quiet,ticked⟩⟩
  · rw [ticked] at earliest
    obtain ⟨none,silent⟩ := armed.unconnected retry
    refine next_deadline_later ?_ ?_ ?_ earliest
    · exact fun _ => again
    · simp [none]
    · simp [silent]
  · rw [ticked] at earliest
    refine next_deadline_later ?_ ?_ ?_ earliest
    · exact fun _ => again
    · intro time wrong
      cases wrong
    · intro time wrong
      cases wrong
  · rw [ticked] at earliest
    refine next_deadline_later ?_ ?_ ?_ earliest
    · exact fun retry => not_le.mp (fun late => waiting ⟨retry,late⟩)
    · exact later_of_not_due hold
    · exact keepalive_later early (armed.negotiated (isSome_of_due due))
  · rw [ticked] at earliest
    exact next_deadline_later (fun retry => not_le.mp (fun late => waiting ⟨retry,late⟩)) (later_of_not_due hold)
      (later_of_not_due quiet) earliest

end BgpSession
end Bgp

namespace Ospf
open Device Queue
namespace OspfExchange
variable {L : Type} [ExchangeAdvertisement L] {x : OspfExchange L}

/-- The exchange as a component of its owner. -/
def component (L : Type) [ExchangeAdvertisement L] : Component (OspfExchange L) SimTime :=
  ⟨fun exchange now => (exchange.tick now).1,next_deadline⟩

/-- An exchange that some run of calls with a start among them leads to. -/
def Started (x : OspfExchange L) : Prop :=
  ∃ (here peer : Ipv4Addr) (mtu : UInt16) (sequence : UInt32) (before : List (Operation L)) (database : Database L)
    (now : SimTime) (after : List (Operation L)),
    x = (before ++ .start database now :: after).foldl perform (new here peer mtu sequence)

/-- An exchange that has sent a description never forgets it. -/
def Spoken (x : OspfExchange L) : Prop := x.last_dd.isSome = true

theorem Spoken.of_sameTalk {y : OspfExchange L} (spoken : x.Spoken) (same : SameTalk x y) : y.Spoken := by
  rw [Spoken,same.last_dd]
  exact spoken

theorem spoken_request (database : Database L) (now : SimTime) (keys : List (Key L)) :
    ∀ (x : OspfExchange L) (packets : List (OspfBody L)), x.Spoken →
      (receive_request database now x packets keys).1.Spoken := by
  induction keys with
  | nil => intro x packets spoken; exact spoken
  | cons wanted rest ih =>
    intro x packets spoken
    unfold receive_request
    cases database.get? wanted with
    | none => exact rfl
    | some lsa => exact ih _ _ (spoken.of_sameTalk (sameTalk_flood x lsa now))

theorem spoken_finish (spoken : x.Spoken) (now : SimTime) : (x.finish now).1.Spoken := by
  unfold finish
  split
  · exact spoken
  · exact spoken

theorem spoken_negotiate (spoken : x.Spoken) (flags : UInt8) (sequence : UInt32) (headers : List (Header L))
    (database : Database L) (now : SimTime) : (x.negotiate flags sequence headers database now).1.Spoken := by
  unfold negotiate
  split
  · exact Eq.refl true
  · split
    · exact Eq.refl true
    · exact spoken

theorem spoken_take_page (spoken : x.Spoken) (flags : UInt8) (sequence : UInt32) (headers : List (Header L))
    (database : Database L) (now : SimTime) : (x.take_page flags sequence headers database now).1.Spoken := by
  have heard : Spoken (x.request_headers headers database) := spoken
  unfold take_page
  dsimp only
  split
  · split
    · exact spoken_finish heard now
    · exact Eq.refl true
  · split
    · refine spoken_finish ?_ now
      exact Eq.refl true
    · exact Eq.refl true

theorem spoken_dd (spoken : x.Spoken) (mtu : UInt16) (options : UInt32) (flags : UInt8) (sequence : UInt32)
    (headers : List (Header L)) (database : Database L) (now : SimTime) :
    (x.receive_dd mtu options flags sequence headers database now).1.Spoken := by
  have negotiated := spoken_negotiate spoken flags sequence headers database now
  have taken := spoken_take_page spoken flags sequence headers database now
  unfold receive_dd
  repeat' split
  all_goals first
    | exact spoken
    | exact negotiated
    | exact taken
    | exact Eq.refl true

theorem spoken_perform (spoken : x.Spoken) (operation : Operation L) : (x.perform operation).Spoken := by
  cases operation with
  | start database now => exact rfl
  | flood lsa now => exact spoken.of_sameTalk (sameTalk_flood x lsa now)
  | tick now => exact spoken.of_sameTalk (sameTalk_tick x now)
  | receive body database now =>
    cases body with
    | Hello _ => exact spoken
    | DatabaseDescription mtu options flags sequence headers =>
      exact spoken_dd spoken mtu options flags sequence headers database now
    | LinkStateRequest keys =>
      simp only [perform,receive]
      split
      · exact spoken_request database now keys x [] spoken
      · exact spoken
    | LinkStateUpdate lsas =>
      simp only [perform,receive]
      split
      · exact spoken.of_sameTalk (sameTalk_update x lsas database now)
      · exact spoken
    | LinkStateAck headers =>
      simp only [perform,receive]
      split
      · exact spoken.of_sameTalk (sameTalk_ack x headers)
      · exact spoken

theorem Started.spoken (started : x.Started) : x.Spoken := by
  obtain ⟨here,peer,mtu,sequence,before,database,now,after,rfl⟩ := started
  rw [List.foldl_append,List.foldl_cons]
  have run : ∀ (rest : List (Operation L)) (x : OspfExchange L), x.Spoken → (rest.foldl perform x).Spoken := by
    intro rest
    induction rest with
    | nil => intro x spoken; exact spoken
    | cons operation rest ih => intro x spoken; exact ih _ (spoken_perform spoken operation)
  exact run after _ rfl

variable {now : SimTime}

theorem lt_retransmit_at (early : now < END_OF_TIME) : now < retransmit_at now := by
  unfold retransmit_at
  exact lt_satAdd64 early (by decide)

/-- The description timer runs no more, or lies ahead. -/
theorem tick_dd_later (spoken : x.Spoken) (early : now < END_OF_TIME) (runs : x.dd_timer = true) :
    now < (x.tick_dd now).1.dd_due := by
  obtain ⟨last,sent⟩ := Option.isSome_iff_exists.mp spoken
  unfold tick_dd
  rw [sent]
  dsimp only
  by_cases due : x.dd_timer = true ∧ x.dd_due ≤ now
  · rw [if_pos due]
    exact lt_retransmit_at early
  · rw [if_neg due]
    exact not_le.mp (fun late => due ⟨runs,late⟩)

theorem tick_requests_later (early : now < END_OF_TIME) (loading : x.state = .Loading) :
    now < (x.tick_requests now).1.request_due := by
  unfold tick_requests
  by_cases due : x.state = .Loading ∧ x.request_due ≤ now
  · rw [if_pos due]
    exact lt_retransmit_at early
  · rw [if_neg due]
    exact not_le.mp (fun late => due ⟨loading,late⟩)

/-- No update of the list of retransmissions is due after its tick. -/
theorem tick_updates_later (early : now < END_OF_TIME) :
    ∀ sent ∈ (x.tick_updates now).1.retransmit.values, now < sent.2 := by
  intro sent member
  obtain ⟨k,found⟩ := (OrderedMap.mem_values _ _).mp member
  unfold tick_updates at found
  dsimp only at found
  rw [OrderedMap.get?_mapValues] at found
  obtain ⟨before,-,rfl⟩ := Option.map_eq_some_iff.mp found
  by_cases due : before.2 ≤ now
  · rw [if_pos due]
    exact lt_retransmit_at early
  · rw [if_neg due]
    exact not_le.mp due

theorem tick_requests_same {y : OspfExchange L} (state : y.state = x.state) (due : y.request_due = x.request_due)
    (now : SimTime) : (y.tick_requests now).1.request_due = (x.tick_requests now).1.request_due := by
  unfold tick_requests
  by_cases loading : x.state = .Loading ∧ x.request_due ≤ now
  · rw [if_pos loading,if_pos (by rw [state,due]; exact loading)]
  · rw [if_neg loading,if_neg (by rw [state,due]; exact loading),due]

/-- A tick moves the timers one kind after the other, and leaves the state as it is. -/
theorem tick_timers (x : OspfExchange L) (now : SimTime) :
    (x.tick now).1.state = x.state ∧ (x.tick now).1.dd_timer = x.dd_timer ∧
      (x.tick now).1.dd_due = (x.tick_dd now).1.dd_due ∧
      (x.tick now).1.request_due = (x.tick_requests now).1.request_due ∧
      (x.tick now).1.retransmit = (x.tick_updates now).1.retransmit := by
  have requested := @tick_requests_same L _ x (x.tick_dd now).1
  obtain ⟨due,described⟩ := tick_dd_shape x now
  obtain ⟨request_due,asked⟩ := tick_requests_shape (x.tick_dd now).1 now
  have ticked : (x.tick now).1 = (((x.tick_dd now).1.tick_requests now).1.tick_updates now).1 := rfl
  rw [ticked]
  unfold dd_timer tick_updates
  dsimp only
  rw [← requested (by rw [described]) (by rw [described]) now,asked,described]
  exact ⟨rfl,rfl,rfl,rfl,rfl⟩

/-- An exchange reports nothing before its timers. -/
theorem next_deadline_later {deadline : SimTime} (describing : x.dd_timer = true → now < x.dd_due)
    (requesting : x.state = .Loading → now < x.request_due) (updating : ∀ sent ∈ x.retransmit.values, now < sent.2)
    (earliest : x.next_deadline = some deadline) : now < deadline := by
  refine lt_min? earliest (fun time member => ?_)
  rw [List.mem_append,List.mem_append] at member
  rcases member with (member | member) | member
  · by_cases timer : x.dd_timer = true
    · rw [if_pos timer,List.mem_singleton] at member
      rw [member]
      exact describing timer
    · rw [if_neg timer] at member
      cases member
  · by_cases loading : x.state = .Loading
    · rw [if_pos loading,List.mem_singleton] at member
      rw [member]
      exact requesting loading
    · rw [if_neg loading] at member
      cases member
  · obtain ⟨sent,there,rfl⟩ := List.mem_map.mp member
    exact updating sent there

/-- Every timer that a tick leaves armed lies ahead, once a description has been sent. -/
theorem Spoken.forward (spoken : x.Spoken) (early : now < END_OF_TIME) :
    Forward (component L) x now := by
  intro deadline earliest
  obtain ⟨state,runs,dd_due,request_due,retransmit⟩ := tick_timers x now
  refine next_deadline_later ?_ ?_ ?_ earliest
  · intro timer
    rw [show ((component L).tick x now) = (x.tick now).1 from rfl] at timer ⊢
    rw [dd_due]
    exact tick_dd_later spoken early (runs ▸ timer)
  · intro loading
    rw [show ((component L).tick x now) = (x.tick now).1 from rfl] at loading ⊢
    rw [request_due]
    exact tick_requests_later early (state ▸ loading)
  · rw [show ((component L).tick x now) = (x.tick now).1 from rfl,retransmit]
    exact tick_updates_later early

end OspfExchange
end Ospf

namespace Tcp
open Device Queue

/-- The time to the next retransmission doubles, and five doublings do not overflow. -/
theorem backoff_positive {retries : UInt8} (few : retries < 5) :
    0 < ((1000000 : UInt64) <<< (retries + 1).toUInt64).toNat := by
  have small : retries.toNat < 5 := UInt8.lt_iff_toNat_lt.mp few
  have cases : retries = 0 ∨ retries = 1 ∨ retries = 2 ∨ retries = 3 ∨ retries = 4 := by
    simp only [← UInt8.toNat_inj,UInt8.toNat_ofNat,Nat.reduceMod,Nat.reducePow]
    omega
  rcases cases with rfl | rfl | rfl | rfl | rfl <;> decide +kernel

/-- A retransmission either moves its deadline, or gives the connection up. -/
theorem TcpConnection.retransmit_later (connection : TcpConnection) {now : SimTime} (early : now < END_OF_TIME)
    {pending : Outstanding} (waits : (connection.retransmit now).1.outstanding = some pending) :
    now < pending.deadline ∨
      pending.deadline ≤ now ∧ 5 ≤ pending.retries ∧ (connection.retransmit now).1.state = .Closed := by
  unfold TcpConnection.retransmit at waits ⊢
  cases sent : connection.outstanding with
  | none =>
    simp only [sent] at waits
    cases waits
  | some before =>
    simp only [sent] at waits ⊢
    by_cases later : now < before.deadline
    · rw [if_pos later] at waits
      rw [sent] at waits
      cases waits
      exact .inl later
    rw [if_neg later] at waits ⊢
    by_cases spent : 5 ≤ before.retries
    · rw [if_pos spent] at waits ⊢
      have same : some before = some pending := waits
      cases same
      exact .inr ⟨not_lt.mp later,spent,rfl⟩
    · rw [if_neg spent] at waits
      cases waits
      exact .inl (lt_satAdd64 early (backoff_positive (not_le.mp spent)))

namespace TcpRuntime

/-- A connection that is closed is gone after the next tick, whenever it comes. -/
theorem closed_removed {runtime : TcpRuntime} {socket : TcpSocket} {connection : TcpConnection}
    (present : runtime.connections.get? socket = some connection) (closed : connection.state = .Closed) (later : SimTime) :
    (runtime.tcp_tick later).1.connections.get? socket = none := by
  simp only [tcp_tick,OrderedMap.get?_mapValues,OrderedMap.get?_retain,present]
  simp [TcpConnection.retained,closed]

/-- An active open that nobody answers. -/
def silent_socket : TcpSocket := ⟨0x0a000001,50000,0x0a000002,80⟩

/-- The tick that gives up leaves the deadline of the segment behind. -/
theorem given_up_due : ∃ opened syn, tcp_connect ⟨∅,∅,0⟩ (fun _ => true) silent_socket 0 = .ok (opened,syn) ∧
    ∃ connection pending, ([1000000,3000000,7000000,15000000,31000000,63000000].foldl
        (fun runtime now => (runtime.tcp_tick now).1) opened).connections.get? silent_socket = some connection ∧
      connection.outstanding = some pending ∧ pending.deadline ≤ 63000000 ∧ 63000000 < END_OF_TIME := by
  refine ⟨_,_,rfl,_,_,rfl,rfl,?_,?_⟩ <;> decide +kernel

end TcpRuntime
end Tcp

open Bgp Ospf Tcp in
/-- In every reachable state, and at every time before the last, a tick of a session, of a started
    exchange or of the connections of a device leaves no deadline behind that is due; a connection that
    has given up is the exception, and the tick after that removes it. -/
theorem timers_forward :
    (∀ {local_as remote_as : UInt32} {router_id : Device.Ipv4Addr} {hold_time : UInt16} {created : Bgp.SimTime}
      {start session : BgpSession} {past : List Call},
      BgpSession.new local_as remote_as router_id hold_time created = .ok start →
      Run start past session → Advances BgpSession.component END_OF_TIME session) ∧
    (∀ {L : Type} [ExchangeAdvertisement L] {x : OspfExchange L}, x.Started →
      Advances (OspfExchange.component L) END_OF_TIME x) ∧
    ∀ {runtime : TcpRuntime} {now : Queue.SimTime} {socket : TcpSocket} {connection : TcpConnection}
      {pending : Outstanding}, now < END_OF_TIME → (runtime.tcp_tick now).1.connections.get? socket = some connection →
      connection.outstanding = some pending → now < pending.deadline ∨ connection.state = .Closed ∧
        ∀ later, ((runtime.tcp_tick now).1.tcp_tick later).1.connections.get? socket = none := by
  refine ⟨?_,?_,?_⟩
  · intro local_as remote_as router_id hold_time created start session past fresh run
    have armed := BgpSession.armed_run (BgpSession.armed_new fresh) run
    exact advances_of_kept (fun _ now armed => armed.tick now) (fun _ _ armed early => armed.forward early) armed
  · intro L _ x started
    exact advances_of_kept (fun _ now spoken => OspfExchange.spoken_perform spoken (.tick now))
      (fun _ _ spoken early => spoken.forward early) started.spoken
  · intro runtime now socket connection pending early found waits
    have kept := found
    simp only [TcpRuntime.tcp_tick,OrderedMap.get?_mapValues] at kept
    obtain ⟨before,-,rfl⟩ := Option.map_eq_some_iff.mp kept
    rcases before.retransmit_later early waits with later | ⟨-,-,closed⟩
    · exact .inl later
    · exact .inr ⟨closed,TcpRuntime.closed_removed found closed⟩

open Bgp Ospf Tcp in
/-- An established session, an exchange that has just started, and a SYN sent again. -/
theorem timers_forward_armed :
    (∃ (start session : BgpSession) (past : List Call), BgpSession.new 1 2 0x0a000001 90 0 = .ok start ∧
      Run start past session ∧ session.state = .Established ∧ Advances BgpSession.component END_OF_TIME session) ∧
    Advances (OspfExchange.component Lsa) END_OF_TIME (OspfExchange.start (.new 1 2 1500 7 : OspfExchange Lsa) ∅ 0).1 ∧
    ∃ opened syn connection pending,
      TcpRuntime.tcp_connect ⟨∅,∅,0⟩ (fun _ => true) TcpRuntime.silent_socket 0 = .ok (opened,syn) ∧
      (opened.tcp_tick 1000000).1.connections.get? TcpRuntime.silent_socket = some connection ∧
      connection.outstanding = some pending ∧ (1000000 < pending.deadline ∨ connection.state = .Closed) := by
  refine ⟨?_,timers_forward.2.1 ⟨1,2,1500,7,[],∅,0,[],rfl⟩,?_⟩
  · have run := (((@Run.new ⟨.Idle,none,false,0,none,none,1,2,0x0a000001,90,0,none,none⟩).call
      .transport_connected 0).call (.receive (.Open ⟨2,90,0x0a000002,[]⟩)) 5).call (.receive .Keepalive) 7
    have fresh : BgpSession.new 1 2 0x0a000001 90 0 =
        .ok ⟨.Idle,none,false,0,none,none,1,2,0x0a000001,90,0,none,none⟩ := rfl
    exact ⟨_,_,_,fresh,run,rfl,timers_forward.1 fresh run⟩
  · have sent : ∃ opened syn,
        TcpRuntime.tcp_connect ⟨∅,∅,0⟩ (fun _ => true) TcpRuntime.silent_socket 0 = .ok (opened,syn) ∧
        ∃ connection pending, (opened.tcp_tick 1000000).1.connections.get? TcpRuntime.silent_socket = some connection ∧
          connection.outstanding = some pending := ⟨_,_,rfl,_,_,rfl,rfl⟩
    obtain ⟨opened,syn,connected,connection,pending,found,waits⟩ := sent
    exact ⟨opened,syn,connection,pending,connected,found,waits,
      (timers_forward.2.2 (by decide +kernel) found waits).imp_right And.left⟩

end Rios
