import Rios.ServedStreams

/-!
# The HTTP service and segmentation

The responder answers the shortest prefix of a stream that is a complete header
of at most 8192 bytes. The service measures what it has buffered together with
what it reads, before it looks for the header: a read that completes a short
header, but goes on behind the 8192nd byte, is refused as too large. Every other
way to cut a stream gives the same answer.
-/

namespace Rios.HttpService
open Rios.Machine Rios.Device Rios.Queue Rios.Tcp Rios.Services Rios.Http

/-! ### What the answer should be -/

/-- The response for the shortest prefix with a complete header within the limit; without one in the first bytes, more
bytes are too many. -/
def expected (body stream : List UInt8) : Option (List UInt8) :=
  match header_end (stream.take MAX_HEADER) with
  | some stop => response (stream.take (stop + 4)) body
  | none => if MAX_HEADER < stream.length then some too_large else none

/-- What was put in the output is the answer to the stream, however it goes on; without an answer it is nothing. -/
def Independent (body placed stream : List UInt8) : Prop :=
  (placed = [] ∧ expected body stream = none) ∨ ∀ later, expected body (stream ++ later) = some placed

/-- No read that completes a header within the limit goes on beyond it. -/
def Fits (reads : List (List UInt8)) : Prop :=
  ∀ before chunk after stop, reads = before ++ chunk :: after → header_end before.flatten = none →
    header_end (before.flatten ++ chunk) = some stop → stop + 4 ≤ MAX_HEADER → (before.flatten ++ chunk).length ≤ MAX_HEADER

/-- An empty line is found in as many bytes as it needs. -/
theorem header_end_take {input : List UInt8} {stop n : Nat} (found : header_end input = some stop) (enough : stop + 4 ≤ n) :
    header_end (input.take n) = some stop := by
  obtain ⟨empty,first⟩ := header_end_eq_some.mp found
  have inside := empty.within
  have length : stop + 4 ≤ (input.take n).length := by
    rw [List.length_take]
    omega
  rw [← List.take_append_drop n input] at empty first
  refine header_end_eq_some.mpr ⟨(emptyLine_append _ length).mp empty,fun earlier less => ?_⟩
  rw [← emptyLine_append (input.drop n) (by omega)]
  exact first earlier less

/-- The answer to a header that is complete within the limit. -/
theorem response_complete {input : List UInt8} {stop : Nat} (found : header_end input = some stop)
    (short : input.length ≤ MAX_HEADER) (body : List UInt8) :
    response input body = some (answer_header (input.take stop) body) := by
  unfold response
  simp only
  rw [if_neg (fun long => absurd long.1 (not_lt.mpr short)),found]
  rfl

theorem expected_complete {input : List UInt8} {stop : Nat} (found : header_end input = some stop)
    (short : stop + 4 ≤ MAX_HEADER) (body : List UInt8) :
    expected body input = some (answer_header (input.take stop) body) := by
  unfold expected
  rw [header_end_take found short]
  simp only
  rw [response_complete (header_end_take found le_rfl) (by rw [List.length_take]; omega),List.take_take,min_eq_left (by omega)]

theorem expected_missing {input : List UInt8} (without : header_end (input.take MAX_HEADER) = none) (body : List UInt8) :
    expected body input = if MAX_HEADER < input.length then some too_large else none := by
  unfold expected
  rw [without]

/-! ### What the service puts in its output -/

/-- The output for a read after others: the limit comes first. -/
def verdict (body read chunk : List UInt8) : Option (List UInt8) :=
  if MAX_HEADER < (read ++ chunk).length then some too_large
  else (header_end (read ++ chunk)).map (fun stop => answer_header ((read ++ chunk).take stop) body)

/-- No empty line is made of other bytes. -/
theorem header_end_replicate (n : Nat) : header_end (List.replicate n 88) = none := by
  refine header_end_eq_none.mpr (fun stop empty => ?_)
  have member : (13 : UInt8) ∈ (List.replicate n (88 : UInt8)).drop stop := by
    refine List.mem_of_mem_take (i := 4) ?_
    rw [empty]
    exact List.mem_cons_self
  have same := List.eq_of_mem_replicate (List.mem_of_mem_drop member)
  revert same
  decide

/-- What the service does with a read while it waits for the header. -/
theorem take_http (port : UInt16) (body read chunk : List UInt8) :
    (⟨read,[],false⟩ : Services.Stream).take (.Http port body) chunk =
      match verdict body read chunk with
      | none => ⟨read ++ chunk,[],false⟩
      | some answer => ⟨[],answer,true⟩ := by
  have sum : read.length + chunk.length = (read ++ chunk).length := List.length_append.symm
  unfold Services.Stream.take verdict
  simp only
  rw [sum]
  by_cases long : MAX_HEADER < (read ++ chunk).length
  · have refused : response (List.replicate 8193 88) body = some too_large := by
      unfold response
      simp only
      rw [header_end_replicate,if_pos ⟨by rw [List.length_replicate]; decide,rfl⟩]
    rw [if_pos long,if_pos (show 8192 < _ from long),refused]
    rfl
  · rw [if_neg long,if_neg (show ¬ 8192 < _ from long)]
    have found : response (read ++ chunk) body =
        (header_end (read ++ chunk)).map (fun stop => answer_header ((read ++ chunk).take stop) body) := by
      unfold response
      simp only
      rw [if_neg (fun both => long both.1)]
    rw [found]
    cases header_end (read ++ chunk) with
    | none => rfl
    | some stop => rfl

/-! ### The invariant -/

/-- What holds of the stream of a connection and of what was read of it. -/
inductive Answering (body : List UInt8) (stream : Services.Stream) (handed : List UInt8) (reads : List (List UInt8)) : Prop
  | waiting (unclosed : stream.close = false) (nothing : stream.output = []) (unsent : handed = [])
      (input : stream.input = reads.flatten) (short : reads.flatten.length ≤ MAX_HEADER)
      (without : header_end reads.flatten = .none)
  | answered (closed : stream.close = true) {before : List (List UInt8)} {chunk : List UInt8}
      (cut : reads = before ++ [chunk]) (without : header_end before.flatten = .none)
      (short : before.flatten.length ≤ MAX_HEADER)
      (placed : verdict body before.flatten chunk = some (handed ++ stream.output))

theorem fits_of_short {reads : List (List UInt8)} (short : reads.flatten.length ≤ MAX_HEADER) : Fits reads := by
  intro before chunk after stop cut _ _ _
  rw [cut,List.flatten_append,List.flatten_cons,← List.append_assoc,List.length_append] at short
  omega

/-- What was put in the output depends on the stream alone, exactly if no read has hidden a complete header. -/
theorem Answering.independent_iff {body : List UInt8} {stream : Services.Stream} {handed : List UInt8}
    {reads : List (List UInt8)} (answering : Answering body stream handed reads) :
    Independent body (handed ++ stream.output) reads.flatten ↔ Fits reads := by
  cases answering with
  | waiting unclosed nothing unsent input short without =>
    refine ⟨fun _ => fits_of_short short,fun _ => .inl ⟨by rw [unsent,nothing]; rfl,?_⟩⟩
    rw [expected_missing (by rw [List.take_of_length_le short]; exact without),if_neg (not_lt.mpr short)]
  | @answered closed before chunk cut without short placed =>
    have flat : reads.flatten = before.flatten ++ chunk := by
      rw [cut,List.flatten_append,List.flatten_cons,List.flatten_nil,List.append_nil]
    rw [flat]
    by_cases long : MAX_HEADER < (before.flatten ++ chunk).length
    · unfold verdict at placed
      rw [if_pos long] at placed
      have refused : handed ++ stream.output = too_large := (Option.some.inj placed).symm
      rw [refused]
      cases found : header_end ((before.flatten ++ chunk).take MAX_HEADER) with
      | some stop =>
        -- the header is complete within the limit, and refused nevertheless
        have limit : stop + 4 ≤ MAX_HEADER := by
          have inside := (header_end_eq_some.mp found).1.within
          rw [List.length_take] at inside
          omega
        have whole : header_end (before.flatten ++ chunk) = some stop := by
          have kept := header_end_append found ((before.flatten ++ chunk).drop MAX_HEADER)
          rwa [List.take_append_drop] at kept
        constructor
        · rintro (⟨empty,-⟩ | always)
          · have code := too_large_code
            rw [empty] at code
            cases code
          · have answer := always []
            rw [List.append_nil,expected_complete whole limit] at answer
            exact absurd (Option.some.inj answer) (answer_header_ne_too_large _ body)
        · intro fits
          have short := fits before chunk [] stop cut without whole limit
          omega
      | none =>
        constructor
        · intro _ early middle after stop split _ complete limit
          have start : ∃ later, before.flatten ++ chunk = (early.flatten ++ middle) ++ later := by
            refine ⟨after.flatten,?_⟩
            rw [← flat,split,List.flatten_append,List.flatten_cons,List.append_assoc]
          obtain ⟨later,split⟩ := start
          have again := header_end_take (header_end_append complete later) limit
          rw [← split,found] at again
          cases again
        · intro _
          refine .inr (fun later => ?_)
          have same : ((before.flatten ++ chunk) ++ later).take MAX_HEADER = (before.flatten ++ chunk).take MAX_HEADER :=
            List.take_append_of_le_length long.le
          rw [expected_missing (by rw [same]; exact found),if_pos (by rw [List.length_append]; omega)]
    · have fits : Fits reads := fits_of_short (by rw [flat]; omega)
      refine ⟨fun _ => fits,fun _ => .inr (fun later => ?_)⟩
      unfold verdict at placed
      rw [if_neg long] at placed
      obtain ⟨stop,found,answer⟩ := Option.map_eq_some_iff.mp placed
      have inside := (header_end_eq_some.mp found).1.within
      rw [expected_complete (header_end_append found later) (by omega),← answer,
        List.take_append_of_le_length (by omega)]

/-- What holds of a lane: without a connection there is no stream, and otherwise what was read and the receive buffer
are what has come in. -/
def Serving (body : List UInt8) (lane : Lane) (ledger : Ledger) : Prop :=
  match lane.connection with
  | none => lane.stream = none
  | some connection => Answering body (lane.stream.getD .default) ledger.handed ledger.reads ∧
      ledger.reads.flatten ++ connection.received = ledger.taken

theorem answering_new (body : List UInt8) : Answering body .default Ledger.new.handed Ledger.new.reads :=
  .waiting rfl rfl rfl rfl (Nat.zero_le _) rfl

/-! ### What preserves it -/

section Steps
variable {socket : TcpSocket} {segment : TcpSegment} {now : SimTime} {port : UInt16} {body : List UInt8} {lane : Lane}
  {ledger : Ledger}

theorem arrived_serving {outcome : Lane × Option TcpSegment} (holds : Serving body lane ledger)
    (arrives : Arrived socket segment now lane outcome) : Serving body outcome.1 (ledger.arrive lane segment outcome.1) := by
  unfold Serving at holds
  cases arrives with
  | @connected connection present =>
    simp only [present] at holds
    obtain ⟨added,received,-,-⟩ := receive_adds connection socket segment now
    rw [arrive_connected ledger segment present rfl received]
    refine ⟨holds.1,?_⟩
    rw [received,← List.append_assoc,holds.2]
  | refused absent quiet =>
    simp only [absent] at holds
    simp only [Serving,absent]
    exact holds
  | accepted absent sequence =>
    simp only [absent] at holds
    simp only [Serving,Ledger.arrive,absent,holds]
    exact ⟨answering_new body,rfl⟩

theorem ticked_serving {outcome : Lane × List TcpSegment} (holds : Serving body lane ledger)
    (ticks : Ticked now lane outcome) (connected : outcome.1.connection ≠ none) : Serving body outcome.1 ledger := by
  cases ticks with
  | absent none => exact holds
  | expired present => exact absurd rfl connected
  | @kept connection present alive =>
    unfold Serving at holds
    simp only [present] at holds
    refine ⟨holds.1,?_⟩
    rw [TcpConnection.retransmit_received]
    exact holds.2

/-- Handing on leaves the receive buffer, and the bytes in the output or before it. -/
theorem writes_kept {connection : TcpConnection} {stream : Services.Stream}
    {next : TcpConnection × Services.Stream × List TcpSegment} (writes : Writes socket now connection stream next)
    {handed : List UInt8} {reads : List (List UInt8)} (answering : Answering body stream handed reads) :
    next.1.received = connection.received ∧ Answering body next.2.1 (handed ++ next.2.2.flatMap (·.payload)) reads := by
  cases writes with
  | rests reason => exact ⟨rfl,by simpa using answering⟩
  | closed state empty free reason later => exact ⟨rfl,by simpa using answering⟩
  | sent length some_bytes inside small free able =>
    refine ⟨rfl,?_⟩
    simp only [List.flatMap_cons,List.flatMap_nil,List.append_nil,TcpConnection.segment_payload]
    cases answering with
    | waiting unclosed nothing unsent input short without =>
      rw [nothing,List.length_nil] at inside
      omega
    | answered closed cut without short placed =>
      refine .answered closed cut without short ?_
      rw [List.append_assoc,List.take_append_drop]
      exact placed

theorem pumped_serving {outcome : Lane × List TcpSegment} (holds : lane.connection ≠ none → Serving body lane ledger)
    (pumps : Pumped (some (.Http port body)) socket now lane outcome) :
    Serving body outcome.1 (ledger.serve lane outcome.1 outcome.2) := by
  cases pumps with
  | absent gone => rfl
  | @idle connection present reason =>
    have serving := holds (by rw [present]; simp)
    unfold Serving at serving ⊢
    simp only [present,Ledger.serve,List.flatMap_nil,List.append_nil] at serving ⊢
    rw [if_neg (fun both => both.1 both.2)]
    exact serving
  | @served connection service middle next present offered able reads writes =>
    have serves := holds (by rw [present]; simp)
    unfold Serving at serves
    simp only [present] at serves
    obtain ⟨serving,whole⟩ := serves
    cases offered
    have buffers : Ledger.buffer lane = connection.received ∧
        Ledger.buffer ⟨some next.1,some next.2.1⟩ = next.1.received := by
      constructor
      · simp [Ledger.buffer,present]
      · rfl
    simp only [Serving,Ledger.serve,buffers.1,buffers.2,List.flatMap_append,Option.getD_some]
    cases reads with
    | waits reason =>
      obtain ⟨received,after⟩ := writes_kept writes serving
      simp only [List.flatMap_nil,List.nil_append]
      rw [received,if_neg (fun both => both.1 both.2)]
      exact ⟨after,whole⟩
    | drained unclosed empty pending =>
      have flat : (ledger.reads ++ [connection.received]).flatten = ledger.reads.flatten ++ connection.received := by
        rw [List.flatten_append,List.flatten_cons,List.flatten_nil,List.append_nil]
      -- the stream waits for its header, and gets the bytes of this read
      have read : Answering body ((lane.stream.getD .default).take (.Http port body) connection.received) ledger.handed
          (ledger.reads ++ [connection.received]) := by
        cases serving with
        | answered closed cut without short placed =>
          rw [unclosed] at closed
          cases closed
        | waiting _ nothing unsent input short without =>
          have stream : lane.stream.getD .default = ⟨ledger.reads.flatten,[],false⟩ := by
            rw [← input,← nothing,← unclosed]
          rw [stream,take_http]
          cases found : verdict body ledger.reads.flatten connection.received with
          | some answer => exact .answered rfl rfl without short (by rw [found,unsent]; rfl)
          | none =>
            unfold verdict at found
            by_cases long : MAX_HEADER < (ledger.reads.flatten ++ connection.received).length
            · rw [if_pos long] at found
              cases found
            · rw [if_neg long,Option.map_eq_none_iff] at found
              exact .waiting rfl rfl unsent flat.symm (by rw [flat]; omega) (by rw [flat]; exact found)
      obtain ⟨received,after⟩ := writes_kept writes read
      simp only [List.flatMap_cons,List.flatMap_nil,TcpConnection.segment_payload,List.nil_append]
      rw [received,if_pos ⟨pending,rfl⟩]
      refine ⟨after,?_⟩
      rw [flat,List.append_nil]
      exact whole

theorem step_serving {lane' : Lane} {ledger' : Ledger} {sent : List TcpSegment} (holds : Serving body lane ledger)
    (step : LaneStep (some (.Http port body)) socket lane ledger lane' ledger' sent) : Serving body lane' ledger' := by
  cases step with
  | elsewhere => exact holds
  | arrived arrives => exact arrived_serving holds arrives
  | pumped pumps => exact pumped_serving (fun _ => holds) pumps
  | timed ticks pumps => exact pumped_serving (fun connected => ticked_serving holds ticks connected) pumps

end Steps

/-! ### Runs -/

theorem run_serving (host : Host) (socket : TcpSocket) (port : UInt16) (body : List UInt8)
    (serves : host.service socket.local_port = some (.Http port body)) (fresh : host.lane socket = ⟨none,none⟩)
    (events : List Event) {connection : TcpConnection}
    (present : (Watch.run socket host events).host.tcp.connections.get? socket = some connection) :
    Answering body (((Watch.run socket host events).host.streams.get? socket).getD .default)
        (Watch.run socket host events).ledger.handed (Watch.run socket host events).ledger.reads ∧
      (Watch.run socket host events).ledger.reads.flatten ++ connection.received =
        (Watch.run socket host events).ledger.taken := by
  have start : Serving body (host.lane socket) .new := by
    rw [fresh]
    rfl
  have holds := (Watch.run_rule socket (I := Serving body) (fun holds step => step_serving holds step) host serves start events).1
  unfold Serving at holds
  rw [show ((Watch.run socket host events).lane socket).connection = some connection from present] at holds
  exact holds

/-- In every run, the reads take up what has come in, and what the service has put in the output depends on this stream
alone, exactly if no read that completes a header within the limit has gone on beyond it. -/
theorem http_segmentation (host : Host) (socket : TcpSocket) (port : UInt16) (body : List UInt8)
    (serves : host.service socket.local_port = some (.Http port body)) (fresh : host.lane socket = ⟨none,none⟩)
    (events : List Event) {connection : TcpConnection}
    (present : (Watch.run socket host events).host.tcp.connections.get? socket = some connection) :
    (Watch.run socket host events).ledger.reads.flatten ++ connection.received =
        (Watch.run socket host events).ledger.taken ∧
      (Independent body ((Watch.run socket host events).ledger.handed ++
          (((Watch.run socket host events).host.streams.get? socket).getD .default).output)
          (Watch.run socket host events).ledger.reads.flatten ↔
        Fits (Watch.run socket host events).ledger.reads) := by
  obtain ⟨answering,whole⟩ := run_serving host socket port body serves fresh events present
  exact ⟨whole,answering.independent_iff⟩

/-! ### Runs of a client -/

def http_socket : TcpSocket := ⟨1,80,2,9⟩
/-- A host that serves two bytes, without connections. -/
def http_host : Host := ⟨⟨∅,OrderedMap.empty.insert 80 (),0⟩,[.Http 80 [104,105]],∅⟩

/-- The client opens its stream. -/
def opening : List Event :=
  [.receive http_socket ⟨9,80,99,0,.SYN,1000,[],[]⟩ 0,.receive http_socket ⟨9,80,100,64001,.ACK,1000,[],[]⟩ 0]

/-- The client sends payloads, each in a segment of its own. -/
def sending : UInt32 → List (List UInt8) → List Event
  | _,[] => []
  | sequence,payload :: rest =>
    .receive http_socket ⟨9,80,sequence,64001,.ACK,1000,[],payload⟩ 0 :: sending (sequence + UInt32.ofNat payload.length) rest

/-- The connection of the client, with what has come in and was not read. -/
def opened (sequence : UInt32) (received : List UInt8) : TcpConnection where
  state := .Established
  retransmissions := 0
  send_next := 64001
  receive_next := sequence
  peer_window := 1000
  received := received
  outstanding := none
  last_activity := 0
  idle_timeout_us := some IDLE_US
  time_wait_until := none
  peer_closed := false
  passive := true

/-- A short request. -/
def request : List UInt8 := Dhcp.bytes "GET / HTTP/1.0" ++ [13,10,13,10]

/-- The request comes in two segments, and the service reads after each of them. -/
def divided : List Event :=
  opening ++ (sending 100 [request.take 10] ++ (.pump 0 :: (sending 110 [request.drop 10] ++ [.pump 0])))

theorem http_segmentation_divided :
    let watch := Watch.run http_socket http_host divided
    let placed := watch.ledger.handed ++ ((watch.host.streams.get? http_socket).getD .default).output
    watch.ledger.reads = [request.take 10,request.drop 10] ∧ placed ≠ [] ∧ Independent [104,105] placed request := by
  intro watch placed
  have reads : watch.ledger.reads = [request.take 10,request.drop 10] := by decide +kernel
  have answered : placed ≠ [] := by decide +kernel
  obtain ⟨connection,present⟩ := Option.isSome_iff_exists.mp
    (show (watch.host.tcp.connections.get? http_socket).isSome = true by decide +kernel)
  obtain ⟨-,independent⟩ := http_segmentation http_host http_socket 80 [104,105] (by decide +kernel) (by decide +kernel) divided present
  have fits : Fits watch.ledger.reads := by
    rw [reads]
    exact fits_of_short (by decide +kernel)
  have same : watch.ledger.reads.flatten = request := by rw [reads]; decide +kernel
  exact ⟨reads,answered,same ▸ independent.mpr fits⟩

/-- A segment in sequence adds its payload. -/
theorem opened_receive {received payload : List UInt8} (fits : received.length + payload.length ≤ RECEIVE_LIMIT)
    (sequence : UInt32) :
    ((opened sequence received).receive http_socket ⟨9,80,sequence,64001,.ACK,1000,[],payload⟩ 0).1 =
      opened (sequence + UInt32.ofNat payload.length) (received ++ payload) := by
  have plain : TcpFlags.ACK.contains .RST = false ∧ TcpFlags.ACK.contains .SYN = false ∧ TcpFlags.ACK.contains .FIN = false ∧
      TcpFlags.ACK.contains .ACK = true := by decide
  simp [TcpConnection.receive,opened,plain,TcpConnection.acknowledge,TcpConnection.accept,TcpConnection.noted,
    TcpConnection.extend,not_lt.mpr fits]

/-- Payloads that fit in the receive buffer wait there. -/
theorem sending_lane (payloads : List (List UInt8)) {watch : Watch} {sequence : UInt32} {received : List UInt8}
    (lane : watch.lane http_socket = ⟨some (opened sequence received),none⟩)
    (fits : received.length + payloads.flatten.length ≤ RECEIVE_LIMIT) :
    ∃ later, ((sending sequence payloads).foldl (fun watch event => (watch.apply http_socket event).1) watch).lane http_socket =
        ⟨some (opened later (received ++ payloads.flatten)),none⟩ ∧
      ((sending sequence payloads).foldl (fun watch event => (watch.apply http_socket event).1) watch).ledger.reads =
        watch.ledger.reads := by
  induction payloads generalizing watch sequence received with
  | nil => exact ⟨sequence,by rw [List.flatten_nil,List.append_nil]; exact lane,rfl⟩
  | cons payload rest ih =>
    rw [List.flatten_cons,List.length_append] at fits
    have arrives := watch.host.receive_tcp_lane http_socket ⟨9,80,sequence,64001,.ACK,1000,[],payload⟩ 0
    have connection := arrives.connected_lane (congrArg Lane.connection lane)
    rw [opened_receive (by omega)] at connection
    have stream : ((watch.host.receive_tcp http_socket ⟨9,80,sequence,64001,.ACK,1000,[],payload⟩ 0).1.lane http_socket).stream =
        none := congrArg Lane.stream lane
    have next : ((watch.apply http_socket (.receive http_socket ⟨9,80,sequence,64001,.ACK,1000,[],payload⟩ 0)).1.lane http_socket) =
        ⟨some (opened (sequence + UInt32.ofNat payload.length) (received ++ payload)),none⟩ := by
      simp only [Watch.apply,if_true,Watch.lane]
      exact congrArg₂ Lane.mk connection stream
    obtain ⟨later,whole,reads⟩ := ih next (by rw [List.length_append]; omega)
    refine ⟨later,?_,?_⟩
    · rw [sending,List.foldl_cons,whole,List.flatten_cons,List.append_assoc]
    · rw [sending,List.foldl_cons,reads]
      have before : (watch.lane http_socket).connection = some (opened sequence received) := congrArg Lane.connection lane
      simp only [Watch.apply,if_true,Ledger.arrive,before]

/-- The request, and bytes behind it that nobody asked for. -/
def pipelined : List (List UInt8) := (request ++ List.replicate 1182 65) :: List.replicate 6 (List.replicate 1200 65)

/-- The service reads when all segments have come in. -/
def pipelining : List Event := opening ++ (sending 100 pipelined ++ [.pump 0])

theorem pipelined_length : pipelined.flatten.length = 8400 := by
  have short : request.length = 18 := by decide +kernel
  rw [pipelined,List.flatten_cons,List.length_append,List.length_append,short,List.length_replicate,
    List.flatten_replicate_replicate,List.length_replicate]

theorem pipelined_header : header_end pipelined.flatten = some 14 := by
  have short : header_end request = some 14 := by decide +kernel
  rw [pipelined,List.flatten_cons,List.append_assoc]
  exact header_end_append short _

/-- One read takes up all of it. -/
theorem pipelining_reads : (Watch.run http_socket http_host pipelining).ledger.reads = [pipelined.flatten] ∧
    ∃ connection, (Watch.run http_socket http_host pipelining).host.tcp.connections.get? http_socket = some connection ∧
      connection.received = [] := by
  have start : (Watch.run http_socket http_host opening).lane http_socket = ⟨some (opened 100 []),none⟩ := by decide +kernel
  have unread : (Watch.run http_socket http_host opening).ledger.reads = [] := by decide +kernel
  obtain ⟨later,lane,reads⟩ := sending_lane pipelined start (by rw [pipelined_length]; decide)
  have arrived : Watch.run http_socket http_host (opening ++ sending 100 pipelined) =
      (sending 100 pipelined).foldl (fun watch event => (watch.apply http_socket event).1)
        (Watch.run http_socket http_host opening) := List.foldl_append
  rw [← arrived] at lane reads
  rw [unread] at reads
  rw [List.nil_append] at lane
  have offered := (@Watch.run_rule http_socket (some (.Http 80 [104,105])) (fun _ _ => True) (fun _ _ => trivial) http_host
    (by decide +kernel) trivial (opening ++ sending 100 pipelined)).2
  obtain ⟨outcome,pumps,after,sent⟩ :=
    (Watch.run http_socket http_host (opening ++ sending 100 pipelined)).host.service_tcp_tick_lane http_socket 0
  have before : (Watch.run http_socket http_host (opening ++ sending 100 pipelined)).host.lane http_socket =
      ⟨some (opened later pipelined.flatten),none⟩ := lane
  rw [offered,before] at pumps
  have nonempty : pipelined.flatten ≠ [] := by
    rw [← List.length_pos_iff,pipelined_length]
    decide
  rw [pipelining,← List.append_assoc,Watch.run_snoc]
  simp only [Watch.apply,Ledger.serve,Watch.lane,before,after,reads]
  cases pumps with
  | absent gone => cases gone
  | idle present reason =>
    cases present
    rcases reason with unserved | idle
    · cases unserved
    · cases idle
  | @served connection service middle next present offered able reads writes =>
    cases present
    cases offered
    cases reads with
    | waits reason =>
      rcases reason with closed | pending | empty
      · cases closed
      · exact absurd rfl pending
      · exact absurd empty nonempty
    | drained unclosed empty pending =>
      have taken : next.1.received = [] := by
        cases writes with
        | rests reason => rfl
        | sent length some_bytes inside small free able => rfl
        | closed state empty free reason later => rfl
      constructor
      · rw [if_pos ⟨nonempty,taken⟩]
        rfl
      · have connected := congrArg Lane.connection after
        simp only [Host.lane] at connected
        exact ⟨next.1,connected,taken⟩

/-- The bytes of a short request are refused as a header that is too large, where one read takes up more than 8192 bytes. -/
theorem pipelined_refused :
    (Watch.run http_socket http_host pipelining).ledger.taken = pipelined.flatten ∧
      (Watch.run http_socket http_host pipelining).ledger.handed ++
        (((Watch.run http_socket http_host pipelining).host.streams.get? http_socket).getD .default).output = too_large ∧
      expected [104,105] pipelined.flatten = some (reply "200 OK" [104,105] false) ∧
      ¬ Independent [104,105] ((Watch.run http_socket http_host pipelining).ledger.handed ++
          (((Watch.run http_socket http_host pipelining).host.streams.get? http_socket).getD .default).output)
        pipelined.flatten := by
  obtain ⟨reads,connection,present,received⟩ := pipelining_reads
  obtain ⟨answering,whole⟩ := run_serving http_host http_socket 80 [104,105] (by decide +kernel) (by decide +kernel) pipelining
    present
  rw [reads,received,List.flatten_cons,List.flatten_nil,List.append_nil,List.append_nil] at whole
  have refused : (Watch.run http_socket http_host pipelining).ledger.handed ++
      (((Watch.run http_socket http_host pipelining).host.streams.get? http_socket).getD .default).output = too_large := by
    rw [reads] at answering
    cases answering with
    | waiting unclosed nothing unsent input short without =>
      rw [List.flatten_cons,List.flatten_nil,List.append_nil,pipelined_length] at short
      exact absurd short (by decide)
    | @answered closed before chunk cut without short placed =>
      obtain ⟨rfl,same⟩ := List.append_eq_singleton_iff.mp cut.symm |>.resolve_right (by simp)
      cases same
      unfold verdict at placed
      rw [List.flatten_nil,List.nil_append,if_pos (by rw [pipelined_length]; decide)] at placed
      exact (Option.some.inj placed).symm
  have answer : expected [104,105] pipelined.flatten = some (reply "200 OK" [104,105] false) := by
    have header : pipelined.flatten.take 14 = Dhcp.bytes "GET / HTTP/1.0" := by
      have line : (Dhcp.bytes "GET / HTTP/1.0").length = 14 := by decide +kernel
      rw [pipelined,List.flatten_cons,request,List.append_assoc,List.append_assoc]
      exact List.take_left' line
    rw [expected_complete pipelined_header (by decide),header,answer_header,Dhcp.from_utf8_bytes]
    decide +kernel
  refine ⟨whole.symm,refused,answer,?_⟩
  rw [refused]
  rintro (⟨empty,-⟩ | always)
  · have code := too_large_code
    rw [empty] at code
    cases code
  · have same := always []
    rw [List.append_nil,answer] at same
    revert same
    decide +kernel

end Rios.HttpService
