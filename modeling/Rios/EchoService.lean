import Rios.ServedStreams

/-!
# The echo service

What the service hands to the transport is what it has read, in order and
without a gap: the bytes handed on, the output that still waits and the receive
buffer are together what has come in. The stream of the server ends behind that
of the client, when everything has been echoed and acknowledged.
-/

namespace Rios.EchoService
open Rios.Machine Rios.Device Rios.Queue Rios.Tcp Rios.Services

/-- Everything that has come in was echoed and acknowledged, and the client has closed its side. -/
structure Done (ledger : Ledger) : Prop where
  finished : ledger.finished = true
  echoed : ledger.handed = ledger.taken
  acknowledged : ledger.acknowledged = ledger.handed.length

/-- What holds of a connection of the service. -/
structure Serving (connection : TcpConnection) (stream : Stream) (ledger : Ledger) : Prop where
  unclosed : stream.close = false
  exact : ledger.handed ++ (stream.output ++ connection.received) = ledger.taken
  finished : connection.peer_closed = true → ledger.finished = true
  halves : connection.state = .CloseWait ∨ connection.state = .LastAck → connection.peer_closed = true
  acknowledged : connection.outstanding = none → connection.state ≠ .Closed → ledger.acknowledged = ledger.handed.length
  closing : connection.state = .LastAck ∨ (∃ pending ∈ connection.outstanding, pending.segment.flags.contains .FIN = true) →
    connection.peer_closed = true ∧ Done ledger

/-- What holds of a lane: without a connection there is no stream. -/
def Exact (lane : Lane) (ledger : Ledger) : Prop :=
  match lane.connection with
  | none => lane.stream = none
  | some connection => Serving connection (lane.stream.getD .default) ledger

/-- Every FIN that is sent is a late one. -/
def Late (ledger : Ledger) (sent : List TcpSegment) : Prop :=
  ∀ segment ∈ sent, segment.flags.contains .FIN = true → Done ledger

variable {ledger : Ledger}

theorem exact_some {connection : TcpConnection} {stream : Option Stream} :
    Exact ⟨some connection,stream⟩ ledger ↔ Serving connection (stream.getD .default) ledger := Iff.rfl

theorem exact_none : Exact ⟨none,none⟩ ledger := rfl

theorem late_nil (ledger : Ledger) : Late ledger [] := by
  intro segment member
  cases member

/-- Segments without the flag are no matter. -/
theorem late_plain {sent : List TcpSegment} (plain : ∀ segment ∈ sent, segment.flags.contains .FIN = false)
    (ledger : Ledger) :
    Late ledger sent := by
  intro segment member fin
  rw [plain segment member] at fin
  cases fin

theorem ack_plain : TcpFlags.ACK.contains .FIN = false := by decide
theorem push_plain : (TcpFlags.ACK.or .PSH).contains .FIN = false := by decide
theorem open_plain : (TcpFlags.SYN.or .ACK).contains .FIN = false := by decide

/-! ### Segments that arrive -/

section Receive
variable {connection : TcpConnection} {socket : TcpSocket} {segment : TcpSegment} {now : SimTime} {stream : Stream}
  {ledger : Ledger}

/-- A connection that waits for the application to close, or for the last acknowledgment, has been told so. -/
theorem receive_halves (halves : connection.state = .CloseWait ∨ connection.state = .LastAck → connection.peer_closed = true)
    (later : (connection.receive socket segment now).1.state = .CloseWait ∨
      (connection.receive socket segment now).1.state = .LastAck) :
    (connection.receive socket segment now).1.peer_closed = true ∧
      ((connection.receive socket segment now).1.state = .LastAck → connection.state = .LastAck) := by
  have takes := @TcpConnection.receive_takes connection socket segment now
  generalize (connection.receive socket segment now).1 = after at takes later
  cases takes with
  | same next closed received state =>
    rcases state with same | gone | ⟨gone,-⟩ | ⟨gone,-⟩
    · rw [same] at later ⊢
      exact ⟨closed.trans (halves later),id⟩
    all_goals
      rw [gone] at later
      rcases later with other | other <;> cases other
  | opened state flagged unset next closed received established free =>
    rw [established] at later
    rcases later with other | other <;> cases other
  | taken live state unset expected unclosed next received closed half last =>
    rw [closed]
    rcases later with closeWait | lastAck
    · refine ⟨(half closeWait).resolve_right (fun before => ?_),last⟩
      rw [halves (.inl before)] at unclosed
      cases unclosed
    · have told := halves (.inr (last lastAck))
      rw [unclosed] at told
      cases told

theorem receive_serving (serving : Serving connection stream ledger) {lane : Lane}
    (present : lane.connection = some connection) {after : Lane}
    (later : after.connection = some (connection.receive socket segment now).1) :
    Serving (connection.receive socket segment now).1 stream (ledger.arrive lane segment after) := by
  obtain ⟨added,received,bytes,told⟩ := receive_adds connection socket segment now
  have sends := @TcpConnection.receive_sends connection socket segment now (fun last => serving.halves (.inr last))
  have arrival := arrive_connected ledger segment present later received
  rw [arrival]
  constructor
  · exact serving.unclosed
  · show ledger.handed ++ (stream.output ++ (connection.receive socket segment now).1.received) = ledger.taken ++ added
    rw [received,← serving.exact]
    simp only [List.append_assoc]
  · intro closed
    show (ledger.finished || (segment.flags.contains .FIN && segment.sequence == connection.receive_next)) = true
    rcases told with same | ⟨-,expected,fin⟩
    · rw [serving.finished (same.symm.trans closed)]
      rfl
    · rw [fin.symm.trans closed,expected,beq_self_eq_true,Bool.and_self,Bool.or_true]
  · exact fun half => (receive_halves serving.halves half).1
  · intro free alive
    show (if segment.flags.contains .ACK ∧ segment.acknowledgment = connection.send_next then ledger.handed.length
      else ledger.acknowledged) = ledger.handed.length
    split
    · rfl
    · rename_i other
      rcases sends.outstanding with same | ⟨-,closed | ⟨acknowledged,flagged,-⟩⟩
      · exact serving.acknowledged (same.symm.trans free) (sends.closed alive)
      · exact absurd closed alive
      · exact absurd ⟨flagged,acknowledged⟩ other
  · intro ends
    -- the stream was closing before, so the segment adds nothing
    have before : connection.peer_closed = true ∧ Done ledger := by
      rcases ends with last | ⟨pending,waits,fin⟩
      · exact serving.closing (.inl ((receive_halves serving.halves (.inr last)).2 last))
      · rcases sends.outstanding with same | ⟨free,-⟩
        · exact serving.closing (.inr ⟨pending,same ▸ waits,fin⟩)
        · rw [free] at waits
          cases waits
    obtain ⟨closed,done⟩ := before
    have nothing : added = [] := by
      rcases bytes with none | ⟨-,unclosed⟩
      · exact none
      · rw [closed] at unclosed
        cases unclosed
    refine ⟨?_,?_,?_,?_⟩
    · rcases told with same | ⟨unclosed,-⟩
      · exact same.trans closed
      · rw [closed] at unclosed
        cases unclosed
    · show (ledger.finished || (segment.flags.contains .FIN && segment.sequence == connection.receive_next)) = true
      rw [done.finished]
      rfl
    · show ledger.handed = ledger.taken ++ added
      rw [nothing,List.append_nil,done.echoed]
    · show (if segment.flags.contains .ACK ∧ segment.acknowledgment = connection.send_next then ledger.handed.length
        else ledger.acknowledged) = ledger.handed.length
      split
      · rfl
      · exact done.acknowledged

end Receive

variable {socket : TcpSocket} {now : SimTime}

/-- What a connection with nothing outstanding waits for after a send. -/
theorem send_pending {connection : TcpConnection} {flags : TcpFlags} {payload : List UInt8}
    (free : connection.outstanding = none) {pending : Outstanding}
    (waits : pending ∈ (connection.send socket flags payload now).1.outstanding) : pending.segment.flags = flags := by
  simp only [TcpConnection.send,free,Option.mem_def] at waits
  split at waits
  · cases waits
    rfl
  · cases waits

/-- A connection waits for what it has sent. -/
theorem send_outstanding {connection : TcpConnection} {payload : List UInt8} (some_bytes : 0 < payload.length)
    (small : payload.length ≤ MAX_PAYLOAD) :
    (connection.send socket (TcpFlags.ACK.or .PSH) payload now).1.outstanding ≠ none := by
  obtain ⟨length,exact⟩ := @send_length socket connection payload small
  have occupied : (connection.segment socket (TcpFlags.ACK.or .PSH) payload).sequence_len ≠ 0 := by
    intro zero
    rw [length] at zero
    rw [zero] at exact
    exact absurd exact.symm (Nat.ne_of_gt some_bytes)
  simp only [TcpConnection.send]
  rw [if_pos occupied]
  exact Option.some_ne_none _

theorem arrived_exact {segment : TcpSegment} {lane : Lane} {outcome : Lane × Option TcpSegment}
    (holds : Exact lane ledger) (arrives : Arrived socket segment now lane outcome) :
    Exact outcome.1 (ledger.arrive lane segment outcome.1) ∧ Late (ledger.arrive lane segment outcome.1) outcome.2.toList := by
  cases arrives with
  | @connected connection present =>
    unfold Exact at holds
    simp only [present] at holds
    have serving : Serving (connection.receive socket segment now).1 _
        (ledger.arrive lane segment ⟨some (connection.receive socket segment now).1,lane.stream⟩) :=
      receive_serving holds present rfl
    refine ⟨serving,?_⟩
    have answers := @TcpConnection.receive_answer connection socket segment now
    generalize (connection.receive socket segment now).2 = answer at answers
    cases answers with
    | none => exact late_nil _
    | acknowledges joined alive =>
      refine late_plain (fun sent member => ?_) _
      rw [Option.toList_some,List.mem_singleton] at member
      rw [member]
      exact ack_plain
    | @repeats pending waits same joined =>
      intro sent member fin
      rw [Option.toList_some,List.mem_singleton] at member
      rw [member] at fin
      refine (serving.closing (.inr ⟨pending,?_,fin⟩)).2
      rw [same]
      exact waits
  | refused absent quiet =>
    unfold Exact at holds
    rw [absent] at holds
    constructor
    · unfold Exact
      rw [absent]
      exact holds
    · exact late_plain (fun sent member => quiet sent (Option.mem_toList.mp member)) _
  | accepted absent sequence =>
    unfold Exact at holds
    simp only [absent] at holds
    constructor
    · rw [exact_some,holds]
      have ledger_new : ledger.arrive lane segment
          ⟨some ((TcpConnection.listening sequence segment now).send socket (TcpFlags.SYN.or .ACK) [] now).1,none⟩ = .new := by
        unfold Ledger.arrive
        rw [absent]
      rw [ledger_new]
      constructor
      · rfl
      · rfl
      · intro closed
        cases closed
      · rintro (other | other) <;> cases other
      · exact fun _ _ => rfl
      · rintro (other | ⟨pending,waits,fin⟩)
        · cases other
        · rw [send_pending rfl waits] at fin
          exact absurd fin (Bool.eq_false_iff.mp open_plain)
    · refine late_plain (fun sent member => ?_) _
      rw [Option.toList_some,List.mem_singleton] at member
      rw [member]
      exact open_plain

/-! ### Timers -/

theorem ticked_exact {lane : Lane} {outcome : Lane × List TcpSegment} (holds : Exact lane ledger)
    (ticks : Ticked now lane outcome) :
    (outcome.1.connection ≠ none → Exact outcome.1 ledger) ∧ Late ledger outcome.2 := by
  cases ticks with
  | absent none => exact ⟨fun _ => holds,late_nil ledger⟩
  | expired present => exact ⟨fun connected => absurd rfl connected,late_nil ledger⟩
  | @kept connection present alive =>
    unfold Exact at holds
    simp only [present] at holds
    obtain ⟨-,-,closed,received,state,free,same,sent⟩ := @TcpConnection.retransmit_changes connection now
    constructor
    · refine fun _ => ⟨holds.unclosed,?_,?_,?_,?_,?_⟩
      · rw [received]
        exact holds.exact
      · rw [closed]
        exact holds.finished
      · intro half
        rw [closed]
        rcases state with unchanged | gone
        · rw [unchanged] at half
          exact holds.halves half
        · rw [gone] at half
          rcases half with other | other <;> cases other
      · exact fun outstanding _ => holds.acknowledged (free outstanding) alive
      · intro ends
        rw [closed]
        rcases ends with last | ⟨pending,waits,fin⟩
        · rcases state with unchanged | gone
          · exact holds.closing (.inl (unchanged.symm.trans last))
          · rw [gone] at last
            cases last
        · obtain ⟨before,held,segment⟩ := same pending waits
          exact holds.closing (.inr ⟨before,held,segment ▸ fin⟩)
    · intro segment member fin
      obtain ⟨before,held,rfl⟩ := sent segment (Option.mem_toList.mp member)
      exact (holds.closing (.inr ⟨before,held,fin⟩)).2

/-! ### The service -/

section Pump
variable {socket : TcpSocket} {now : SimTime} {port : UInt16} {connection : TcpConnection} {stream : Stream}
  {ledger : Ledger} {middle next : TcpConnection × Stream × List TcpSegment}

/-- Reading moves the receive buffer to the output. -/
theorem read_serving (serving : Serving connection stream ledger)
    (reads : Reads (.TcpEcho port) socket connection stream middle) :
    Serving middle.1 middle.2.1 ledger ∧ middle.2.2.flatMap (·.payload) = [] ∧
      (∀ segment ∈ middle.2.2, segment.flags.contains .FIN = false) ∧ (middle.2.1.output = [] → middle.1.received = []) := by
  cases reads with
  | waits reason =>
    refine ⟨serving,rfl,fun _ none => absurd none List.not_mem_nil,fun empty => ?_⟩
    rcases reason with closed | pending | nothing
    · rw [serving.unclosed] at closed
      cases closed
    · exact absurd empty pending
    · exact nothing
  | drained unclosed empty pending =>
    refine ⟨⟨serving.unclosed,?_,serving.finished,serving.halves,serving.acknowledged,serving.closing⟩,rfl,?_,fun _ => rfl⟩
    · show ledger.handed ++ ((stream.output ++ connection.received) ++ []) = ledger.taken
      rw [List.append_nil]
      exact serving.exact
    · intro segment member
      rw [List.mem_singleton.mp member]
      exact ack_plain

/-- Handing on moves output to the transport; the stream is closed when nothing is left to be handed on. -/
theorem write_serving (serving : Serving connection stream ledger) (drained : stream.output = [] → connection.received = [])
    (writes : Writes socket now connection stream next) (reads : List (List UInt8)) :
    Serving next.1 next.2.1 { ledger with handed := ledger.handed ++ next.2.2.flatMap (·.payload), reads := reads } ∧
      Late { ledger with handed := ledger.handed ++ next.2.2.flatMap (·.payload), reads := reads } next.2.2 := by
  cases writes with
  | rests reason =>
    refine ⟨?_,late_nil _⟩
    simp only [List.flatMap_nil,List.append_nil]
    exact ⟨serving.unclosed,serving.exact,serving.finished,serving.halves,serving.acknowledged,fun ends =>
      ⟨(serving.closing ends).1,(serving.closing ends).2.1,(serving.closing ends).2.2,(serving.closing ends).2.3⟩⟩
  | sent length some_bytes inside small free able =>
    have taken : (stream.output.take length).length = length := List.length_take_of_le inside
    have waits : (connection.send socket (TcpFlags.ACK.or .PSH) (stream.output.take length) now).1.outstanding ≠ none :=
      send_outstanding (by omega) (by omega)
    simp only [List.flatMap_cons,List.flatMap_nil,List.append_nil,TcpConnection.segment_payload]
    constructor
    · refine ⟨serving.unclosed,?_,serving.finished,serving.halves,?_,?_⟩
      · show (ledger.handed ++ stream.output.take length) ++ (stream.output.drop length ++ connection.received) =
          ledger.taken
        rw [List.append_assoc,← List.append_assoc (stream.output.take length),List.take_append_drop]
        exact serving.exact
      · intro none
        exact absurd none waits
      · rintro (last | ⟨pending,held,fin⟩)
        · have same : connection.state = .LastAck := last
          rw [same] at able
          rcases able with other | other <;> cases other
        · rw [send_pending free held] at fin
          exact absurd fin (Bool.eq_false_iff.mp push_plain)
    · refine late_plain (fun segment member => ?_) _
      rw [List.mem_singleton.mp member]
      exact push_plain
  | closed state empty free reason later =>
    have half : connection.state = .CloseWait := by
      rcases reason with closed | half
      · rw [serving.unclosed] at closed
        cases closed
      · exact half
    have closed : connection.peer_closed = true := serving.halves (.inl half)
    simp only [List.flatMap_cons,List.flatMap_nil,List.append_nil,TcpConnection.segment_payload]
    have done : Done { ledger with reads := reads } := by
      refine ⟨serving.finished closed,?_,serving.acknowledged free (by rw [half]; simp)⟩
      have whole := serving.exact
      rw [empty,drained empty,List.append_nil,List.append_nil] at whole
      exact whole
    refine ⟨⟨serving.unclosed,serving.exact,serving.finished,fun _ => closed,fun _ _ => done.acknowledged,
      fun _ => ⟨closed,done⟩⟩,fun _ _ _ => done⟩

end Pump

theorem pumped_exact {port : UInt16} {lane : Lane} {outcome : Lane × List TcpSegment}
    (holds : lane.connection ≠ none → Exact lane ledger) (pumps : Pumped (some (.TcpEcho port)) socket now lane outcome) :
    Exact outcome.1 (ledger.serve lane outcome.1 outcome.2) ∧ Late (ledger.serve lane outcome.1 outcome.2) outcome.2 := by
  cases pumps with
  | absent gone => exact ⟨exact_none,late_nil _⟩
  | @idle connection present reason =>
    have exact := holds (by rw [present]; simp)
    refine ⟨?_,late_nil _⟩
    unfold Exact at exact ⊢
    simp only [present,Ledger.serve,List.flatMap_nil,List.append_nil] at exact ⊢
    exact ⟨exact.unclosed,exact.exact,exact.finished,exact.halves,exact.acknowledged,fun ends =>
      ⟨(exact.closing ends).1,(exact.closing ends).2.1,(exact.closing ends).2.2,(exact.closing ends).2.3⟩⟩
  | @served connection service middle next present offered able reads writes =>
    have serving := holds (by rw [present]; simp)
    unfold Exact at serving
    simp only [present] at serving
    cases offered
    obtain ⟨moved,silent,plain,drained⟩ := read_serving serving reads
    simp only [Ledger.serve,List.flatMap_append,silent,List.nil_append]
    obtain ⟨after,late⟩ := write_serving moved drained writes
      (if Ledger.buffer lane ≠ [] ∧ Ledger.buffer ⟨some next.1,some next.2.1⟩ = [] then ledger.reads ++ [Ledger.buffer lane]
        else ledger.reads)
    refine ⟨after,fun segment member fin => ?_⟩
    rcases List.mem_append.mp member with read | written
    · exact late_plain plain _ segment read fin
    · exact late segment written fin

/-- When everything was echoed, a tick hands on nothing. -/
theorem pumped_done {port : UInt16} {lane : Lane} {outcome : Lane × List TcpSegment}
    (holds : lane.connection ≠ none → Exact lane ledger) (done : Done ledger)
    (pumps : Pumped (some (.TcpEcho port)) socket now lane outcome) : Done (ledger.serve lane outcome.1 outcome.2) := by
  have nothing : outcome.2.flatMap (·.payload) = [] := by
    have after := (pumped_exact holds pumps).1
    cases pumps with
    | absent gone => rfl
    | idle present reason => rfl
    | @served connection service middle next present offered able reads writes =>
      have exact := after.exact
      simp only [Ledger.serve,done.echoed] at exact
      rw [List.append_assoc] at exact
      exact (List.append_eq_nil_iff.mp (List.append_right_eq_self.mp exact)).1
  refine ⟨done.finished,?_,?_⟩
  · simp only [Ledger.serve,nothing,List.append_nil]
    exact done.echoed
  · simp only [Ledger.serve,nothing,List.append_nil]
    exact done.acknowledged

/-! ### Runs -/

theorem step_exact {port : UInt16} {lane lane' : Lane} {ledger' : Ledger} {sent : List TcpSegment}
    (holds : Exact lane ledger) (step : LaneStep (some (.TcpEcho port)) socket lane ledger lane' ledger' sent) :
    Exact lane' ledger' ∧ Late ledger' sent := by
  cases step with
  | elsewhere => exact ⟨holds,late_nil _⟩
  | arrived arrives => exact arrived_exact holds arrives
  | pumped pumps => exact pumped_exact (fun _ => holds) pumps
  | timed ticks pumps =>
    obtain ⟨kept,repeated⟩ := ticked_exact holds ticks
    obtain ⟨after,late⟩ := pumped_exact kept pumps
    refine ⟨after,fun segment member fin => ?_⟩
    rcases List.mem_append.mp member with again | written
    · exact pumped_done kept (repeated segment again fin) pumps
    · exact late segment written fin

/-- What comes in is echoed exactly, the FIN of the server is the last thing it sends, and what comes in are the
payloads of segments in their order of arrival. -/
theorem echo_exact (host : Host) (socket : TcpSocket) (port : UInt16)
    (echoes : host.service socket.local_port = some (.TcpEcho port)) (fresh : host.lane socket = ⟨none,none⟩)
    (events : List Event) :
    (∀ connection, (Watch.run socket host events).host.tcp.connections.get? socket = some connection →
      (Watch.run socket host events).ledger.handed ++
        ((((Watch.run socket host events).host.streams.get? socket).getD .default).output ++ connection.received) =
        (Watch.run socket host events).ledger.taken) ∧
    (∀ event, ∀ segment ∈ ((Watch.run socket host events).apply socket event).2, segment.flags.contains .FIN = true →
      Done ((Watch.run socket host events).apply socket event).1.ledger) ∧
    ∀ segment now, (Watch.run socket host events).host.tcp.connections.get? socket ≠ none →
      ∃ added, (added = [] ∨ added = segment.payload) ∧
        ((Watch.run socket host events).apply socket (.receive socket segment now)).1.ledger.taken =
          (Watch.run socket host events).ledger.taken ++ added := by
  have start : Exact (host.lane socket) .new := by
    rw [fresh]
    exact exact_none
  obtain ⟨holds,offered⟩ := Watch.run_rule socket (I := Exact) (fun holds step => (step_exact holds step).1) host echoes start
    events
  constructor
  · intro connection present
    have serving := holds
    unfold Exact at serving
    rw [show ((Watch.run socket host events).lane socket).connection = some connection from present] at serving
    exact serving.exact
  constructor
  · intro event
    have step := ((Watch.run socket host events).apply_step socket event).1
    rw [offered] at step
    exact (step_exact holds step).2
  · intro segment now connected
    obtain ⟨connection,present⟩ := Option.ne_none_iff_exists'.mp connected
    obtain ⟨added,received,bytes,-⟩ := receive_adds connection socket segment now
    refine ⟨added,bytes.imp_right And.left,?_⟩
    have later := ((Watch.run socket host events).host.receive_tcp_lane socket segment now).connected_lane present
    simp only [Watch.apply,if_true,Ledger.arrive,Watch.lane,Host.lane,present]
    simp only [Host.lane] at later
    simp only [Ledger.buffer,later,Option.map_some,Option.getD_some,received,List.drop_left]

/-! ### A run with two bytes -/

def echo_socket : TcpSocket := ⟨1,7,2,9⟩
/-- A host that echoes, without connections. -/
def echo_host : Host := ⟨⟨∅,OrderedMap.empty.insert 7 (),0⟩,[.TcpEcho 7],∅⟩

/-- A client opens the stream, sends two bytes with its FIN, and acknowledges their echo. -/
def echo_events : List Event :=
  [.receive echo_socket ⟨9,7,99,0,.SYN,1000,[],[]⟩ 0,
    .receive echo_socket ⟨9,7,100,64001,TcpFlags.ACK.or .FIN,1000,[],[5,6]⟩ 1,
    .pump 2,
    .receive echo_socket ⟨9,7,103,64003,.ACK,1000,[],[]⟩ 3]

theorem echo_exact_two_bytes :
    ((Watch.run echo_socket echo_host echo_events).apply echo_socket (.pump 4)).1.ledger.handed = [5,6] ∧
      Done ((Watch.run echo_socket echo_host echo_events).apply echo_socket (.pump 4)).1.ledger := by
  refine ⟨by decide +kernel,?_⟩
  have fin : ∃ segment ∈ ((Watch.run echo_socket echo_host echo_events).apply echo_socket (.pump 4)).2,
      segment.flags.contains .FIN = true := by decide +kernel
  obtain ⟨segment,member,flagged⟩ := fin
  exact (echo_exact echo_host echo_socket 7 (by decide +kernel) (by decide +kernel) echo_events).2.1 (.pump 4) segment member
    flagged

end Rios.EchoService
