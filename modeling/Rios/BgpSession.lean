import Rios.Bgp

/-!
# BGP sessions

The connection state machine with its timers, and the grammar of the histories
that lead to its connected states. A session delivers an UPDATE only after a
history of that grammar.
-/

namespace Rios.Bgp
open Rios.Machine Rios.Device

/-- Virtual time in microseconds. -/
abbrev SimTime := UInt64

def RETRY_US : UInt64 := 30000000
def OPEN_WAIT_US : UInt64 := 240000000

/-- Base session states, distinct from TCP's connection state. -/
inductive BgpState where
  | Idle
  | Connect
  | Active
  | OpenSent
  | OpenConfirm
  | Established
deriving DecidableEq

/-- The states behind a completed transport handshake. -/
def BgpState.connected : BgpState → Bool
  | .OpenSent | .OpenConfirm | .Established => true
  | _ => false

/-- Effects for the transport owner. -/
structure BgpSessionActions where
  messages : List BgpMessage
  update : Option BgpUpdate
  connect_transport : Bool
  close_transport : Bool
deriving DecidableEq

/-- `BgpSessionActions::default`. -/
def BgpSessionActions.default : BgpSessionActions := ⟨[],none,false,false⟩

/-- Negotiated capabilities and exact virtual deadlines of one session. -/
structure BgpSession where
  state : BgpState
  peer_router_id : Option Ipv4Addr
  four_octet_as : Bool
  negotiated_hold_time : UInt16
  established_since : Option SimTime
  last_error : Option BgpError
  local_as : UInt32
  remote_as : UInt32
  router_id : Ipv4Addr
  configured_hold_time : UInt16
  retry_at : SimTime
  hold_at : Option SimTime
  keepalive_at : Option SimTime
deriving DecidableEq

/-- Whether four-octet AS numbers are advertised. -/
def BgpOpen.four_octet_as (self : BgpOpen) : Bool :=
  self.capabilities.any (fun capability => match capability with
    | .FourOctetAs _ => true
    | _ => false)

namespace BgpSession

/-- The OPEN of a session. -/
def opening (self : BgpSession) : BgpOpen :=
  ⟨if self.local_as.toNat < 2 ^ 16 then self.local_as.toUInt16 else 23456,self.configured_hold_time,self.router_id,
    [.FourOctetAs self.local_as]⟩

def new (local_as remote_as : UInt32) (router_id : Ipv4Addr) (hold_time : UInt16) (now : SimTime) : Result BgpSession :=
  if local_as = 0 ∨ remote_as = 0 then .error ⟨2,2⟩
  else
    let session : BgpSession :=
      ⟨.Idle,none,false,0,none,none,local_as,remote_as,router_id,hold_time,now,none,none⟩
    match session.opening.validate with
    | .error error => .error error
    | .ok _ => .ok session

/-- Called only after the handshake completes, including passive accepts. -/
def transport_connected (self : BgpSession) (now : SimTime) : BgpSession × BgpSessionActions :=
  ({ self with state := .OpenSent, peer_router_id := none, four_octet_as := false, negotiated_hold_time := 0,
               established_since := none, hold_at := some (satAdd64 now OPEN_WAIT_US), keepalive_at := none },
    { BgpSessionActions.default with messages := [.Open self.opening] })

def reset (self : BgpSession) (now : SimTime) : BgpSession :=
  { self with state := .Idle, established_since := none, hold_at := none, keepalive_at := none,
              retry_at := satAdd64 now RETRY_US }

/-- Transport loss enters Active with a bounded retry cadence. -/
def transport_failed (self : BgpSession) (now : SimTime) : BgpSession × BgpSessionActions :=
  ({ self.reset now with state := .Active },{ BgpSessionActions.default with close_transport := true })

/-- Report an error through a NOTIFICATION before closing the transport. -/
def protocol_error (self : BgpSession) (error : BgpError) (now : SimTime) : BgpSession × BgpSessionActions :=
  ({ self with last_error := some error }.reset now,
    { BgpSessionActions.default with messages := [.Notification error.code error.subcode []], close_transport := true })

/-- The hold time in microseconds after an instant, if there is one. -/
def hold_deadline (self : BgpSession) (now : SimTime) : Option SimTime :=
  if self.negotiated_hold_time ≠ 0 then some (satAdd64 now (self.negotiated_hold_time.toUInt64 * 1000000)) else none

def reset_hold (self : BgpSession) (now : SimTime) : BgpSession := { self with hold_at := self.hold_deadline now }

def next_keepalive (self : BgpSession) (now : SimTime) : BgpSession :=
  { self with keepalive_at :=
      if self.negotiated_hold_time ≠ 0 then some (satAdd64 now ((self.negotiated_hold_time / 3).toUInt64 * 1000000))
      else none }

/-- The OPEN that a session waits for. -/
def receive_open (self : BgpSession) (opening : BgpOpen) (now : SimTime) : BgpSession × BgpSessionActions :=
  match opening.validate with
  | .error error => self.protocol_error error now
  | .ok _ =>
    if opening.effective_asn ≠ self.remote_as then self.protocol_error ⟨2,2⟩ now
    else if self.local_as = self.remote_as ∧ opening.router_id = self.router_id then self.protocol_error ⟨2,3⟩ now
    else if !opening.four_octet_as ∧ 0xffff < self.local_as then self.protocol_error ⟨2,2⟩ now
    else
      let session := { self with peer_router_id := some opening.router_id, four_octet_as := opening.four_octet_as,
                                 negotiated_hold_time := min self.configured_hold_time opening.hold_time }
      ({ (session.reset_hold now).next_keepalive now with state := .OpenConfirm },
        { BgpSessionActions.default with messages := [.Keepalive] })

/-- Consume one completely framed message. Only established sessions deliver UPDATEs. -/
def receive (self : BgpSession) (message : BgpMessage) (now : SimTime) : BgpSession × BgpSessionActions :=
  match message with
  | .Notification code subcode _ =>
    ({ self with last_error := some ⟨code,subcode⟩ }.reset now,
      { BgpSessionActions.default with close_transport := true })
  | .Open opening =>
    match self.state with
    | .OpenSent => self.receive_open opening now
    | _ => self.protocol_error ⟨5,0⟩ now
  | .Keepalive =>
    match self.state with
    | .OpenConfirm =>
      ({ self with established_since := some now, state := .Established }.reset_hold now,BgpSessionActions.default)
    | .Established => (self.reset_hold now,BgpSessionActions.default)
    | _ => self.protocol_error ⟨5,0⟩ now
  | .Update update =>
    match self.state with
    | .Established => (self.reset_hold now,{ BgpSessionActions.default with update := some update })
    | _ => self.protocol_error ⟨5,0⟩ now

/-- The states that wait for the retry timer. -/
def retrying (self : BgpSession) : Bool :=
  match self.state with
  | .Idle | .Active | .Connect => true
  | _ => false

/-- Earliest retry, hold or keepalive deadline; the owner schedules it. -/
def next_deadline (self : BgpSession) : Option SimTime :=
  ((if self.retrying then [self.retry_at] else []) ++ self.hold_at.toList ++ self.keepalive_at.toList).min?

def tick (self : BgpSession) (now : SimTime) : BgpSession × BgpSessionActions :=
  if self.retrying ∧ self.retry_at ≤ now then
    ({ self with state := .Connect, retry_at := satAdd64 now RETRY_US },
      { BgpSessionActions.default with connect_transport := true })
  else if self.hold_at.any (· ≤ now) then self.protocol_error ⟨4,0⟩ now
  else if self.keepalive_at.any (· ≤ now) then
    (self.next_keepalive now,{ BgpSessionActions.default with messages := [.Keepalive] })
  else (self,BgpSessionActions.default)

end BgpSession

/-! ### Histories -/

/-- The calls of the owner. -/
inductive Input where
  | transport_connected
  | transport_failed
  | receive (message : BgpMessage)
  | protocol_error (error : BgpError)
  | tick

def BgpSession.apply (self : BgpSession) (input : Input) (now : SimTime) : BgpSession × BgpSessionActions :=
  match input with
  | .transport_connected => self.transport_connected now
  | .transport_failed => self.transport_failed now
  | .receive message => self.receive message now
  | .protocol_error error => self.protocol_error error now
  | .tick => self.tick now

/-- One call: the session it met, the input and the time. -/
structure Call where
  before : BgpSession
  input : Input
  now : SimTime

/-- The calls that lead from one session to another. -/
inductive Run (start : BgpSession) : List Call → BgpSession → Prop
  | new : Run start [] start
  | call {past : List Call} {session : BgpSession} (run : Run start past session) (input : Input) (now : SimTime) :
      Run start (past ++ [⟨session,input,now⟩]) (session.apply input now).1

/-- A tick at which the hold timer has not expired. -/
def Call.Quiet (call : Call) : Prop := call.input = .tick ∧ ¬ call.before.hold_at.any (· ≤ call.now) = true

/-- An OPEN that the configuration of a session admits. -/
structure Admitted (config : BgpSession) (opening : BgpOpen) : Prop where
  valid : opening.validate = .ok ()
  asn : opening.effective_asn = config.remote_as
  distinct : config.local_as = config.remote_as → opening.router_id ≠ config.router_id

/-- The histories since the last completed handshake that lead to a connected
    state, with the time of the last accepted message: an admitted OPEN, then a
    KEEPALIVE, then KEEPALIVEs and UPDATEs, with nothing else in between than ticks
    before the hold time ends. -/
inductive History (config : BgpSession) : BgpState → List Call → Option SimTime → Prop
  | connected (earlier : List Call) (before : BgpSession) (now : SimTime) :
      History config .OpenSent (earlier ++ [⟨before,.transport_connected,now⟩]) none
  | quiet {state : BgpState} {past : List Call} {last : Option SimTime} {call : Call} :
      History config state past last → call.Quiet → History config state (past ++ [call]) last
  | opened {past : List Call} {opening : BgpOpen} (before : BgpSession) (now : SimTime) :
      History config .OpenSent past none → Admitted config opening →
      History config .OpenConfirm (past ++ [⟨before,.receive (.Open opening),now⟩]) (some now)
  | confirmed {past : List Call} {last : Option SimTime} (before : BgpSession) (now : SimTime) :
      History config .OpenConfirm past last →
      History config .Established (past ++ [⟨before,.receive .Keepalive,now⟩]) (some now)
  | kept {past : List Call} {last : Option SimTime} (before : BgpSession) (now : SimTime) :
      History config .Established past last →
      History config .Established (past ++ [⟨before,.receive .Keepalive,now⟩]) (some now)
  | updated {past : List Call} {last : Option SimTime} (before : BgpSession) (update : BgpUpdate) (now : SimTime) :
      History config .Established past last →
      History config .Established (past ++ [⟨before,.receive (.Update update),now⟩]) (some now)

/-- What holds after a history: the configuration is as it was created, and a
    connected session has its history and its timers. -/
structure Tracked (config : BgpSession) (past : List Call) (session : BgpSession) : Prop where
  local_as : session.local_as = config.local_as
  remote_as : session.remote_as = config.remote_as
  router_id : session.router_id = config.router_id
  since : session.established_since.isSome = true ↔ session.state = .Established
  waiting : session.state = .OpenSent → History config .OpenSent past none
  open_ : session.state = .OpenConfirm ∨ session.state = .Established → ∃ last, History config session.state past (some last) ∧
    (session.negotiated_hold_time ≠ 0 → session.keepalive_at.isSome = true ∧ session.hold_at = session.hold_deadline last)

/-- Arming the keepalive timer. -/
theorem keepalive_armed (session : BgpSession) (now : SimTime) (positive : session.negotiated_hold_time ≠ 0) :
    (session.next_keepalive now).keepalive_at.isSome = true := by
  simp only [BgpSession.next_keepalive,if_pos positive,Option.isSome_some]

namespace Tracked
variable {config session : BgpSession} {past : List Call}

/-- A reset leaves nothing connected behind. -/
theorem reset (tracked : Tracked config past session) (error : Option BgpError) (now : SimTime) (call : Call) :
    Tracked config (past ++ [call]) ({ session with last_error := error }.reset now) := by
  obtain ⟨own,remote,router,-,-,-⟩ := tracked
  refine ⟨own,remote,router,?_,?_,?_⟩ <;> simp [BgpSession.reset]

/-- An error leaves nothing connected behind. -/
theorem protocol_error (tracked : Tracked config past session) (error : BgpError) (now : SimTime) (call : Call) :
    Tracked config (past ++ [call]) (session.protocol_error error now).1 := tracked.reset (some error) now call

/-- A tick either expires the hold timer, or is quiet. -/
theorem tick (tracked : Tracked config past session) (now : SimTime) :
    Tracked config (past ++ [⟨session,.tick,now⟩]) (session.tick now).1 := by
  unfold BgpSession.tick
  by_cases retry : session.retrying = true ∧ session.retry_at ≤ now
  · rw [if_pos retry]
    obtain ⟨own,remote,router,since,-,-⟩ := tracked
    have idle : session.state ≠ .Established := by
      intro established
      have := retry.1
      simp [BgpSession.retrying,established] at this
    refine ⟨own,remote,router,?_,by simp,by simp⟩
    have unset := mt since.mp idle
    simp only [unset,Bool.false_eq_true,false_iff]
    simp
  · rw [if_neg retry]
    by_cases expired : session.hold_at.any (· ≤ now) = true
    · rw [if_pos expired]
      exact tracked.protocol_error _ now _
    · rw [if_neg expired]
      have quiet : Call.Quiet ⟨session,.tick,now⟩ := ⟨rfl,expired⟩
      obtain ⟨own,remote,router,since,waiting,opened⟩ := tracked
      by_cases due : session.keepalive_at.any (· ≤ now) = true
      · rw [if_pos due]
        refine ⟨own,remote,router,since,fun sent => (waiting sent).quiet quiet,fun connected => ?_⟩
        obtain ⟨last,history,timers⟩ := opened connected
        exact ⟨last,history.quiet quiet,fun positive => ⟨keepalive_armed session now positive,(timers positive).2⟩⟩
      · rw [if_neg due]
        refine ⟨own,remote,router,since,fun sent => (waiting sent).quiet quiet,fun connected => ?_⟩
        obtain ⟨last,history,timers⟩ := opened connected
        exact ⟨last,history.quiet quiet,timers⟩

theorem receive_open (tracked : Tracked config past session) (sent : session.state = .OpenSent) (opening : BgpOpen)
    (now : SimTime) :
    Tracked config (past ++ [⟨session,.receive (.Open opening),now⟩]) (session.receive_open opening now).1 := by
  unfold BgpSession.receive_open
  split
  · exact tracked.protocol_error _ now _
  · rename_i valid
    by_cases asn : opening.effective_asn ≠ session.remote_as
    · rw [if_pos asn]
      exact tracked.protocol_error _ now _
    rw [if_neg asn]
    by_cases same : session.local_as = session.remote_as ∧ opening.router_id = session.router_id
    · rw [if_pos same]
      exact tracked.protocol_error _ now _
    rw [if_neg same]
    by_cases narrow : !opening.four_octet_as ∧ 0xffff < session.local_as
    · rw [if_pos narrow]
      exact tracked.protocol_error _ now _
    rw [if_neg narrow]
    obtain ⟨own,remote,router,since,waiting,-⟩ := tracked
    have admitted : Admitted config opening := by
      refine ⟨valid,?_,fun internal equal => same ⟨?_,?_⟩⟩
      · rw [← remote]
        exact not_not.mp asn
      · rw [own,remote,internal]
      · rw [equal,router]
    have unset : ¬ session.established_since.isSome = true := by
      rw [since,sent]
      decide
    refine ⟨own,remote,router,?_,by simp,fun _ => ⟨now,(waiting sent).opened session now admitted,?_⟩⟩
    · simpa [BgpSession.next_keepalive,BgpSession.reset_hold] using unset
    · intro positive
      exact ⟨keepalive_armed _ now positive,rfl⟩

/-- A message that an established session takes restarts the hold timer. -/
theorem refreshed (tracked : Tracked config past session) (established : session.state = .Established) (now : SimTime)
    {call : Call} (extends_ : ∀ last, History config .Established past (some last) →
      History config .Established (past ++ [call]) (some now)) :
    Tracked config (past ++ [call]) (session.reset_hold now) := by
  obtain ⟨own,remote,router,since,-,opened⟩ := tracked
  obtain ⟨last,history,timers⟩ := opened (.inr established)
  rw [established] at history
  refine ⟨own,remote,router,since,by simp [BgpSession.reset_hold,established],fun _ => ⟨now,?_,?_⟩⟩
  · simp only [BgpSession.reset_hold,established]
    exact extends_ last history
  · exact fun positive => ⟨(timers positive).1,rfl⟩

/-- Every message of the grammar extends the history, every other one resets. -/
theorem receive (tracked : Tracked config past session) (message : BgpMessage) (now : SimTime) :
    Tracked config (past ++ [⟨session,.receive message,now⟩]) (session.receive message now).1 := by
  cases message with
  | Notification code subcode data => exact tracked.reset _ now _
  | Open opening =>
    simp only [BgpSession.receive]
    split
    · rename_i sent
      exact tracked.receive_open sent opening now
    · exact tracked.protocol_error _ now _
  | Keepalive =>
    simp only [BgpSession.receive]
    split
    · rename_i confirming
      obtain ⟨own,remote,router,-,-,opened⟩ := tracked
      obtain ⟨last,history,timers⟩ := opened (.inl confirming)
      rw [confirming] at history
      refine ⟨own,remote,router,by simp [BgpSession.reset_hold],by simp [BgpSession.reset_hold],fun _ => ?_⟩
      exact ⟨now,history.confirmed session now,fun positive => ⟨(timers positive).1,rfl⟩⟩
    · rename_i established
      exact tracked.refreshed established now (fun _ history => history.kept session now)
    · exact tracked.protocol_error _ now _
  | Update update =>
    simp only [BgpSession.receive]
    split
    · rename_i established
      exact tracked.refreshed established now (fun _ history => history.updated session update now)
    · exact tracked.protocol_error _ now _

/-- One call keeps the tracking. -/
theorem apply (tracked : Tracked config past session) (input : Input) (now : SimTime) :
    Tracked config (past ++ [⟨session,input,now⟩]) (session.apply input now).1 := by
  cases input with
  | transport_connected =>
    obtain ⟨own,remote,router,-,-,-⟩ := tracked
    refine ⟨own,remote,router,by simp [BgpSession.apply,BgpSession.transport_connected],fun _ => ?_,
      by simp [BgpSession.apply,BgpSession.transport_connected]⟩
    exact .connected past session now
  | transport_failed =>
    obtain ⟨own,remote,router,-,-,-⟩ := tracked
    refine ⟨own,remote,router,?_,?_,?_⟩ <;> simp [BgpSession.apply,BgpSession.transport_failed,BgpSession.reset]
  | receive message => exact tracked.receive message now
  | protocol_error error => exact tracked.protocol_error error now _
  | tick => exact tracked.tick now

end Tracked

/-- A new session is idle. -/
theorem new_tracked {local_as remote_as : UInt32} {router_id : Ipv4Addr} {hold_time : UInt16} {now : SimTime}
    {session : BgpSession} (created : BgpSession.new local_as remote_as router_id hold_time now = .ok session) :
    Tracked session [] session := by
  unfold BgpSession.new at created
  split at created
  · cases created
  · simp only at created
    split at created
    · cases created
    · cases created
      exact ⟨rfl,rfl,rfl,by simp,by simp,by simp⟩

theorem run_tracked {start session : BgpSession} {past : List Call} (fresh : Tracked start [] start)
    (run : Run start past session) : Tracked start past session := by
  induction run with
  | new => exact fresh
  | call _ input now ih => exact ih.apply input now

/-- Only an established session returns an update. -/
theorem update_established {session : BgpSession} {message : BgpMessage} {now : SimTime} {update : BgpUpdate}
    (delivered : (session.receive message now).2.update = some update) : session.state = .Established := by
  cases message with
  | Notification code subcode data => cases delivered
  | Open opening =>
    simp only [BgpSession.receive] at delivered
    split at delivered
    · unfold BgpSession.receive_open at delivered
      split at delivered
      · cases delivered
      · split_ifs at delivered
        all_goals cases delivered
    · cases delivered
  | Keepalive =>
    simp only [BgpSession.receive] at delivered
    split at delivered
    all_goals cases delivered
  | Update other =>
    simp only [BgpSession.receive] at delivered
    split at delivered
    · assumption
    · cases delivered

/-- Whatever leads from a connected state to Idle closes the transport. -/
theorem idle_closes {session : BgpSession} (connected : session.state.connected = true) {input : Input} {now : SimTime}
    (idle : (session.apply input now).1.state = .Idle) : (session.apply input now).2.close_transport = true := by
  have notIdle : session.state ≠ .Idle := by
    intro same
    rw [same] at connected
    cases connected
  cases input with
  | transport_connected => cases idle
  | transport_failed => cases idle
  | protocol_error error => rfl
  | tick =>
    simp only [BgpSession.apply,BgpSession.tick] at idle ⊢
    split at idle
    · cases idle
    · rename_i retry
      rw [if_neg retry]
      split at idle
      · rename_i expired
        rw [if_pos expired]
        rfl
      · split at idle
        · exact absurd idle notIdle
        · exact absurd idle notIdle
  | receive message =>
    cases message with
    | Notification code subcode data => rfl
    | Open opening =>
      simp only [BgpSession.apply,BgpSession.receive] at idle ⊢
      split
      · rename_i sent
        rw [sent] at idle
        simp only [BgpSession.receive_open] at idle ⊢
        split
        · rfl
        · rename_i valid
          rw [valid] at idle
          by_cases asn : opening.effective_asn ≠ session.remote_as
          · rw [if_pos asn]
            rfl
          rw [if_neg asn] at idle ⊢
          by_cases same : session.local_as = session.remote_as ∧ opening.router_id = session.router_id
          · rw [if_pos same]
            rfl
          rw [if_neg same] at idle ⊢
          by_cases narrow : !opening.four_octet_as ∧ 0xffff < session.local_as
          · rw [if_pos narrow]
            rfl
          rw [if_neg narrow] at idle
          cases idle
      · rfl
    | Keepalive =>
      simp only [BgpSession.apply,BgpSession.receive] at idle ⊢
      split
      · rename_i confirming
        rw [confirming] at idle
        cases idle
      · rename_i established
        rw [established] at idle
        exact absurd idle notIdle
      · rfl
    | Update update =>
      simp only [BgpSession.apply,BgpSession.receive] at idle ⊢
      split
      · rename_i established
        rw [established] at idle
        exact absurd idle notIdle
      · rfl

/-- Every update follows a history of the grammar, `established_since` marks the
    established sessions, the hold deadline lies the hold time after the last
    accepted message, and no connected session becomes idle with its transport open. -/
theorem session_trace_safe {local_as remote_as : UInt32} {router_id : Ipv4Addr} {hold_time : UInt16} {created : SimTime}
    {start session : BgpSession} {past : List Call}
    (fresh : BgpSession.new local_as remote_as router_id hold_time created = .ok start) (run : Run start past session) :
    (∀ message now update, (session.receive message now).2.update = some update →
      ∃ last, History start .Established past last) ∧
    (session.established_since.isSome = true ↔ session.state = .Established) ∧
    (session.state = .OpenConfirm ∨ session.state = .Established → session.negotiated_hold_time ≠ 0 →
      session.keepalive_at.isSome = true ∧ ∃ last deadline, History start session.state past (some last) ∧
        session.hold_at = some deadline ∧
        deadline.toNat = min (last.toNat + session.negotiated_hold_time.toNat * 1000000) (2 ^ 64 - 1)) ∧
    (session.state.connected = true → ∀ input now, (session.apply input now).1.state = .Idle →
      (session.apply input now).2.close_transport = true) := by
  have tracked := run_tracked (new_tracked fresh) run
  refine ⟨?_,tracked.since,?_,fun connected _ _ idle => idle_closes connected idle⟩
  · intro message now update delivered
    have established := update_established delivered
    obtain ⟨last,history,-⟩ := tracked.open_ (.inr established)
    exact ⟨some last,established ▸ history⟩
  · intro connected positive
    obtain ⟨last,history,timers⟩ := tracked.open_ connected
    obtain ⟨keepalive,hold⟩ := timers positive
    refine ⟨keepalive,last,satAdd64 last (session.negotiated_hold_time.toUInt64 * 1000000),history,?_,?_⟩
    · rw [hold,BgpSession.hold_deadline,if_pos positive]
    · have small := session.negotiated_hold_time.toNat_lt
      rw [satAdd64_toNat,UInt64.toNat_mul,UInt16.toNat_toUInt64]
      simp only [UInt64.toNat_ofNat,Nat.reduceMod,Nat.reducePow] at small ⊢
      omega

/-- The last message of a history is accepted when it comes. -/
theorem History.accepted_now {config : BgpSession} {state : BgpState} {past : List Call} {call : Call} {last : SimTime}
    (history : History config state (past ++ [call]) (some last)) (message : call.input ≠ .tick) : call.now = last := by
  generalize whole : past ++ [call] = all at history
  generalize stamped : some last = time at history
  cases history with
  | connected => cases stamped
  | quiet _ silent =>
    obtain ⟨-,same⟩ := List.append_inj' whole rfl
    exact absurd (List.singleton_injective same ▸ silent.1) message
  | opened =>
    obtain ⟨-,same⟩ := List.append_inj' whole rfl
    cases stamped
    cases same
    rfl
  | confirmed =>
    obtain ⟨-,same⟩ := List.append_inj' whole rfl
    cases stamped
    cases same
    rfl
  | kept =>
    obtain ⟨-,same⟩ := List.append_inj' whole rfl
    cases stamped
    cases same
    rfl
  | updated =>
    obtain ⟨-,same⟩ := List.append_inj' whole rfl
    cases stamped
    cases same
    rfl

/-- At the end of virtual time the hold deadline does not lie the hold time later. -/
theorem session_trace_safe_saturated :
    ¬ ∀ (start session : BgpSession) (past : List Call), BgpSession.new 1 2 0x0a000001 90 0 = .ok start →
      Run start past session → session.state = .OpenConfirm ∨ session.state = .Established →
      session.negotiated_hold_time ≠ 0 → ∃ last deadline, History start session.state past (some last) ∧
        session.hold_at = some deadline ∧ deadline.toNat = last.toNat + session.negotiated_hold_time.toNat * 1000000 := by
  intro exactly
  have run := ((@Run.new ⟨.Idle,none,false,0,none,none,1,2,0x0a000001,90,0,none,none⟩).call
    .transport_connected 0).call (.receive (.Open ⟨2,90,0x0a000002,[]⟩)) 0xffffffffffffffff
  obtain ⟨last,deadline,history,hold,sum⟩ := exactly _ _ _ rfl run (.inl rfl) (by decide)
  have same := history.accepted_now (by simp)
  cases hold
  rw [← same] at sum
  exact absurd sum (by decide)

/-- A session that has received an OPEN and a KEEPALIVE. -/
theorem session_trace_safe_established :
    ∃ (start session : BgpSession) (past : List Call), BgpSession.new 1 2 0x0a000001 90 0 = .ok start ∧
      Run start past session ∧ session.established_since = some 7 ∧ session.hold_at = some 90000007 ∧
      ∃ last, History start .Established past last := by
  have run := (((@Run.new ⟨.Idle,none,false,0,none,none,1,2,0x0a000001,90,0,none,none⟩).call
    .transport_connected 0).call (.receive (.Open ⟨2,90,0x0a000002,[]⟩)) 5).call (.receive .Keepalive) 7
  have safe := @session_trace_safe 1 2 0x0a000001 90 0 _ _ _ rfl run
  exact ⟨_,_,_,rfl,run,rfl,rfl,safe.1 (.Update ⟨[],none,[]⟩) 8 _ rfl⟩

end Rios.Bgp
