import Rios.BgpNormalForm
import Rios.BgpTransport
import Rios.Frames

/-!
# Framing end to end

The output queue hands whole encodings to TCP, however it is cut by send
capacities and failures, and the accumulator at the other end finds them again,
however the bytes are cut into chunks.
-/

namespace Rios.Bgp
open Rios.Device Rios.Wire Rios.Frames

/-! ### Sending -/

/-- A transport with what was handed to TCP and what was queued for it, each
    message with its encoding. -/
structure Transport where
  stream : Stream
  sent : List UInt8
  queued : List (BgpMessage × List UInt8)

namespace Transport

/-- The encodings that were queued. -/
def encodings (self : Transport) : List (List UInt8) := self.queued.map (·.2)

/-- A transport whose stream has just been created. -/
def initial (fsm : BgpSession) : Transport := ⟨⟨fsm,[],0,none⟩,[],[]⟩

/-- The NOTIFICATION of an error with its encoding. -/
def notification (error : BgpError) : BgpMessage × List UInt8 :=
  (.Notification error.code error.subcode [],BgpMessage.frame 3 [error.code,error.subcode])

/-- After a failure the messages already begun remain, then comes the NOTIFICATION. -/
def fail (self : Transport) (error : BgpError) (now : SimTime) : Transport :=
  ⟨self.stream.fail error now,self.sent,
    self.queued.take (begun self.sent.length self.encodings).length ++ [notification error]⟩

end Transport

/-- What happens to a transport. The session may move on in any way in between. -/
inductive Operation where
  | session (fsm : BgpSession)
  | queue (message : BgpMessage) (now : SimTime)
  | fail (error : BgpError) (now : SimTime)
  | close (deadline : SimTime)
  | flush (send_capacity : Option Nat) (tcp_send : List UInt8 → Bool) (tcp_close : Bool) (now : SimTime)

namespace Transport

/-- Nothing is queued on a closing transport, and a message that cannot be queued fails it. -/
def apply (self : Transport) : Operation → Transport
  | .session fsm => { self with stream := { self.stream with fsm := fsm } }
  | .queue message now =>
    if self.stream.closing.isSome then self
    else
      match self.stream.queue message with
      | .error error => self.fail error now
      | .ok stream => ⟨stream,self.sent,self.queued ++
          (message.encode self.stream.fsm.four_octet_as).toOption.toList.map (message,·)⟩
  | .fail error now => self.fail error now
  | .close deadline =>
    if self.stream.closing.isSome then self else { self with stream := { self.stream with closing := some deadline } }
  | .flush send_capacity tcp_send tcp_close now =>
    let flushed := self.stream.bgp_flush send_capacity tcp_send tcp_close now
    { self with stream := flushed.1, sent := self.sent ++ flushed.2.1 }

/-- What was sent ends inside the first message of the output, behind all others. -/
structure Aligned (transport : Transport) : Prop where
  position : ∃ done, transport.encodings = done ++ transport.stream.output ∧
    transport.sent = done.flatten ++ (transport.stream.output.head?.getD []).take transport.stream.offset
  inside : ∀ frame ∈ transport.stream.output.head?, transport.stream.offset < frame.length
  settled : transport.stream.output = [] → transport.stream.offset = 0
  encoded : ∀ pair ∈ transport.queued, ∃ four, pair.1.encode four = .ok pair.2

theorem nonempty_of_encoded {message : BgpMessage} {four : Bool} {encoding : List UInt8}
    (wrote : message.encode four = .ok encoding) : 19 ≤ encoding.length ∧ encoding.length ≤ BGP_MAX_MESSAGE ∧
      message_length encoding = .ok encoding.length := by
  obtain ⟨kind,body,known,fits,rfl⟩ := BgpMessage.encode_cases wrote
  rw [BgpMessage.frame_length,BgpMessage.message_length_frame known fits]
  exact ⟨by omega,fits,rfl⟩

variable {self : Transport}

theorem Aligned.frames (aligned : self.Aligned) : ∀ frame ∈ self.encodings, 19 ≤ frame.length := by
  intro frame member
  obtain ⟨pair,queued,rfl⟩ := List.mem_map.mp member
  obtain ⟨four,wrote⟩ := aligned.encoded pair queued
  exact (nonempty_of_encoded wrote).1

/-- What was sent is a prefix of the encodings. -/
theorem Aligned.sent_whole (aligned : self.Aligned) : self.sent <+: self.encodings.flatten := by
  obtain ⟨⟨done,split,sent⟩,-,-,-⟩ := aligned
  rw [split,sent,List.flatten_append]
  refine List.prefix_append_right_inj _ |>.mpr ?_
  cases self.stream.output with
  | nil => simp
  | cons frame rest => exact (List.take_prefix _ _).trans (List.prefix_append _ _)

theorem initial_aligned (fsm : BgpSession) : (initial fsm).Aligned :=
  ⟨⟨[],rfl,rfl⟩,by simp [initial],fun _ => rfl,by simp [initial]⟩

theorem notification_encode (error : BgpError) (four : Bool) :
    (notification error).1.encode four = .ok (notification error).2 :=
  BgpMessage.encode_frame (by rw [notification,BgpMessage.encode_body,if_neg (by simp [BGP_MAX_MESSAGE])])
    (by simp [BGP_MAX_MESSAGE])

/-- The stream after a failure holds the message that was cut, and the NOTIFICATION. -/
theorem stream_fail (stream : Stream) (error : BgpError) (now : SimTime) :
    (stream.fail error now).output = stream.output.take (if 0 < stream.offset then 1 else 0) ++ [(notification error).2] ∧
      (stream.fail error now).offset = stream.offset ∧ (stream.fail error now).closing.isSome = true := by
  have few : ¬ TX_LIMIT ≤ (stream.output.take (if 0 < stream.offset then 1 else 0)).length := by
    rw [List.length_take,TX_LIMIT]
    split <;> omega
  have wrote := notification_encode error (stream.fsm.protocol_error error now).1.four_octet_as
  rw [notification] at wrote
  simp only [Stream.fail,BgpSession.protocol_error,Stream.queue_all,List.foldl_cons,List.foldl_nil,Stream.queue,if_neg few]
  simp only [BgpSession.protocol_error] at wrote
  rw [wrote]
  exact ⟨rfl,rfl,rfl⟩

theorem fail_aligned (aligned : self.Aligned) (error : BgpError) (now : SimTime) :
    (self.fail error now).Aligned := by
  have frames := aligned.frames
  obtain ⟨⟨done,split,sent⟩,inside,settled,encoded⟩ := aligned
  obtain ⟨output,offset,-⟩ := stream_fail self.stream error now
  have length : self.sent.length = done.flatten.length + self.stream.offset := by
    rw [sent,List.length_append,List.length_take]
    cases first : self.stream.output with
    | nil => simp [settled first]
    | cons frame rest =>
      have short := inside frame (by rw [first]; rfl)
      simp only [List.head?_cons,Option.getD_some]
      omega
  have nonempty : ∀ frame ∈ done, frame ≠ [] := by
    intro frame member none
    have long := frames frame (by rw [split]; exact List.mem_append_left _ member)
    rw [none] at long
    simp at long
  have kept : begun self.sent.length self.encodings =
      done ++ self.stream.output.take (if 0 < self.stream.offset then 1 else 0) := by
    rw [length,split]
    exact begun_eq nonempty inside settled
  have count : (self.queued.take (begun self.sent.length self.encodings).length).map (·.2) =
      done ++ self.stream.output.take (if 0 < self.stream.offset then 1 else 0) := by
    rw [List.map_take,kept]
    show self.encodings.take _ = _
    rw [split,List.length_append,List.take_length_add_append,List.take_eq_take_iff.mpr]
    rw [List.length_take]
    omega
  refine ⟨⟨done,?_,?_⟩,?_,?_,?_⟩
  · simp only [fail,encodings,List.map_append,output]
    rw [show (self.queued.take (begun self.sent.length (self.queued.map (·.2))).length).map (·.2) = _ from count]
    simp
  · simp only [fail,output,offset,sent]
    cases first : self.stream.output with
    | nil => simp [settled first]
    | cons frame rest =>
      by_cases cut : 0 < self.stream.offset
      · simp [cut]
      · simp [Nat.eq_zero_of_not_pos cut]
  · intro frame member
    simp only [fail,output,offset] at member ⊢
    by_cases cut : 0 < self.stream.offset
    · cases first : self.stream.output with
      | nil => exact absurd (settled first) (by omega)
      | cons head rest =>
        rw [first,if_pos cut] at member
        cases member
        exact inside frame (by rw [first]; rfl)
    · rw [if_neg cut] at member
      cases member
      have long := (nonempty_of_encoded (notification_encode error false)).1
      omega
  · intro none
    simp only [fail,output] at none
    simp at none
  · intro pair member
    rcases List.mem_append.mp member with old | new
    · exact encoded pair (List.mem_of_mem_take old)
    · rw [List.mem_singleton] at new
      exact ⟨false,new ▸ notification_encode error false⟩

/-- Handing over a piece of the first message keeps what was sent aligned. -/
theorem flush_aligned (aligned : self.Aligned) (send_capacity : Option Nat) (tcp_send : List UInt8 → Bool)
    (tcp_close : Bool) (now : SimTime) :
    (self.apply (.flush send_capacity tcp_send tcp_close now)).Aligned := by
  have unchanged : ({ self with sent := self.sent ++ [] } : Transport).Aligned := by simpa using aligned
  have frames := aligned.frames
  obtain ⟨⟨done,split,sent⟩,inside,settled,encoded⟩ := aligned
  simp only [apply,Stream.bgp_flush]
  split
  · exact unchanged
  · split
    · exact unchanged
    · rename_i capacity
      split
      · exact unchanged
      · split
        · rename_i message rest first
          rw [first] at split sent inside
          have short := inside message rfl
          have piece : message.take self.stream.offset ++
              (message.take (min (self.stream.offset + capacity) message.length)).drop self.stream.offset =
                message.take (min (self.stream.offset + capacity) message.length) := by
            have front : message.take self.stream.offset =
                (message.take (min (self.stream.offset + capacity) message.length)).take self.stream.offset := by
              rw [List.take_take]
              congr 1
              omega
            rw [front,List.take_append_drop]
          have whole : self.sent ++
              (message.take (min (self.stream.offset + capacity) message.length)).drop self.stream.offset =
                done.flatten ++ message.take (min (self.stream.offset + capacity) message.length) := by
            rw [sent,List.append_assoc]
            simp only [List.head?_cons,Option.getD_some]
            rw [piece]
          split
          · split
            · rename_i last
              refine ⟨⟨done ++ [message],?_,?_⟩,?_,fun _ => rfl,encoded⟩
              · rw [List.append_assoc]
                exact split
              · rw [last,List.take_length] at whole
                simp only [last,List.take_length,List.flatten_append,List.flatten_singleton,List.take_zero,List.append_nil]
                exact whole
              · intro frame member
                have long := frames frame (by
                  rw [split]
                  exact List.mem_append_right _ (List.mem_cons_of_mem _ (List.mem_of_mem_head? member)))
                simp only
                omega
            · rename_i middle
              refine ⟨⟨done,?_,?_⟩,?_,?_,encoded⟩
              · simp only [first]
                exact split
              · simp only [first,List.head?_cons,Option.getD_some,whole]
              · intro frame member
                simp only [first] at member ⊢
                cases member
                omega
              · intro none
                simp only [first] at none
                cases none
          · exact unchanged
        · split
          · exact unchanged
          · exact unchanged

theorem queue_aligned (aligned : self.Aligned) {message : BgpMessage} {stream : Stream}
    (accepted : self.stream.queue message = .ok stream) :
    (⟨stream,self.sent,self.queued ++ (message.encode self.stream.fsm.four_octet_as).toOption.toList.map (message,·)⟩ :
      Transport).Aligned := by
  obtain ⟨⟨done,split,sent⟩,inside,settled,encoded⟩ := aligned
  unfold Stream.queue at accepted
  rw [if_neg (fun full => by rw [if_pos full] at accepted; cases accepted)] at accepted
  cases wrote : message.encode self.stream.fsm.four_octet_as with
  | error error =>
    rw [wrote] at accepted
    cases accepted
  | ok bytes =>
    rw [wrote] at accepted
    cases accepted
    have long := (nonempty_of_encoded wrote).1
    refine ⟨⟨done,?_,?_⟩,?_,?_,?_⟩
    · simp only [encodings,List.map_append] at split ⊢
      rw [split,List.append_assoc]
      rfl
    · rw [sent]
      cases first : self.stream.output with
      | nil => simp [settled first]
      | cons frame rest => rfl
    · intro frame member
      cases first : self.stream.output with
      | nil =>
        simp only [first,List.nil_append,List.head?_cons] at member
        cases member
        simp only [settled first]
        omega
      | cons head rest =>
        simp only [first,List.cons_append,List.head?_cons] at member
        cases member
        exact inside frame (by rw [first]; rfl)
    · intro none
      simp at none
    · intro pair member
      rcases List.mem_append.mp member with old | new
      · exact encoded pair old
      · simp only [Except.toOption,Option.toList_some,List.map_cons,List.map_nil,List.mem_singleton] at new
        rw [new]
        exact ⟨_,wrote⟩

/-- One operation keeps the stream aligned. -/
theorem apply_aligned (aligned : self.Aligned) (operation : Operation) :
    (self.apply operation).Aligned := by
  cases operation with
  | session fsm => exact ⟨aligned.position,aligned.inside,aligned.settled,aligned.encoded⟩
  | queue message now =>
    simp only [apply]
    split
    · exact aligned
    · split
      · exact fail_aligned aligned _ now
      · rename_i stream accepted
        exact queue_aligned aligned accepted
  | fail error now => exact fail_aligned aligned error now
  | close deadline =>
    simp only [apply]
    split
    · exact aligned
    · exact ⟨aligned.position,aligned.inside,aligned.settled,aligned.encoded⟩
  | flush send_capacity tcp_send tcp_close now => exact flush_aligned aligned send_capacity tcp_send tcp_close now

theorem run_aligned (aligned : self.Aligned) (operations : List Operation) :
    (operations.foldl apply self).Aligned := by
  induction operations generalizing self with
  | nil => exact aligned
  | cons operation rest ih => exact ih (apply_aligned aligned operation)

/-- On a closing transport nothing is queued any more, but by a further failure. -/
theorem closing_queued (closing : self.stream.closing.isSome = true) {operations : List Operation}
    (kept : ∀ error now, .fail error now ∉ operations) : (operations.foldl apply self).queued = self.queued := by
  have step : ∀ (self : Transport) (operation : Operation), self.stream.closing.isSome = true →
      (∀ error now, .fail error now ≠ operation) →
      (self.apply operation).stream.closing.isSome = true ∧ (self.apply operation).queued = self.queued := by
    intro self operation closing other
    cases operation with
    | session fsm => exact ⟨closing,rfl⟩
    | queue message now => simp [apply,closing]
    | fail error now => exact absurd rfl (other error now)
    | close deadline => simp [apply,closing]
    | flush send_capacity tcp_send tcp_close now =>
      refine ⟨?_,rfl⟩
      simp only [apply,Stream.bgp_flush]
      split
      · exact closing
      · split
        · exact closing
        · split
          · exact closing
          · split
            · split
              · split <;> exact closing
              · exact closing
            · split <;> exact closing
  induction operations generalizing self with
  | nil => rfl
  | cons operation rest ih =>
    obtain ⟨still,same⟩ := step self operation closing (fun error now fails => kept error now (fails ▸ List.mem_cons_self))
    rw [List.foldl_cons,ih still (fun error now member => kept error now (List.mem_cons_of_mem _ member)),same]

end Transport

/-! ### Receiving -/

/-- What a reader of the stream has got so far. -/
structure Reader where
  input : BgpStream
  messages : List BgpMessage
  decode_error : Option BgpError
  push_error : Option BgpError

namespace Reader

def initial : Reader := ⟨⟨[]⟩,[],none,none⟩

/-- Take messages until none is complete or one does not decode. The AS width
    depends on the messages read so far. -/
def drain (width : List BgpMessage → Bool) : Nat → Reader → Reader
  | 0,reader => reader
  | rounds + 1,reader =>
    match reader.input.next_message (width reader.messages) with
    | .error error => { reader with decode_error := some error }
    | .ok (none,_) => reader
    | .ok (some message,rest) => drain width rounds { reader with input := rest, messages := reader.messages ++ [message] }

/-- Push a chunk and drain. Every message takes a byte, so that the bytes bound the rounds. -/
def feed (width : List BgpMessage → Bool) (reader : Reader) (chunk : List UInt8) : Reader :=
  if reader.decode_error.isSome then reader
  else
    match reader.input.push chunk with
    | .error error => { reader with push_error := some error }
    | .ok input => drain width input.bytes.length { reader with input := input }

end Reader

/-- The messages of whole encodings, each decoded under the width in force, up to
    the first that does not decode. -/
def deliver (width : List BgpMessage → Bool) (read : List BgpMessage) : List (List UInt8) → List BgpMessage × Option BgpError
  | [] => (read,none)
  | encoding :: rest =>
    match BgpMessage.decode encoding (width read) with
    | .error error => (read,some error)
    | .ok message => deliver width (read ++ [message]) rest

variable {width : List BgpMessage → Bool}

theorem deliver_append {read messages : List BgpMessage} {done : List (List UInt8)}
    (delivered : deliver width read done = (messages,none)) (rest : List (List UInt8)) :
    deliver width read (done ++ rest) = deliver width messages rest := by
  induction done generalizing read with
  | nil =>
    cases delivered
    rfl
  | cons encoding done ih =>
    simp only [List.cons_append,deliver] at delivered ⊢
    split at delivered
    · cases delivered
    · rename_i message decoded
      rw [ih delivered]

theorem deliver_append_error {read messages : List BgpMessage} {error : BgpError} {done : List (List UInt8)}
    (delivered : deliver width read done = (messages,some error)) (rest : List (List UInt8)) :
    deliver width read (done ++ rest) = (messages,some error) := by
  induction done generalizing read with
  | nil => cases delivered
  | cons encoding done ih =>
    simp only [List.cons_append,deliver] at delivered ⊢
    split at delivered
    · exact delivered
    · exact ih delivered

/-- The header alone gives the length of a message. -/
theorem message_length_append {header : List UInt8} (length : header.length = 19) (rest : List UInt8) :
    message_length (header ++ rest) = message_length header := by
  have marker : (header ++ rest).take 16 = header.take 16 := List.take_append_of_le_length (by omega)
  have byte : ∀ i < 19, (header ++ rest).getD i 0 = header.getD i 0 := fun i inside =>
    List.getD_append _ _ _ _ (by omega)
  have long : ¬ (header ++ rest).length < 19 := by
    rw [List.length_append]
    omega
  have exactly : ¬ header.length < 19 := by omega
  simp only [message_length,u16_at,long,exactly,marker,byte 16 (by omega),byte (16 + 1) (by omega),byte 18 (by omega)]
  rfl

/-- The length of a message is known from a part of the stream that holds its header. -/
theorem message_length_of_prefix {frame bytes : List UInt8} (known : message_length frame = .ok frame.length)
    (long : 19 ≤ frame.length) (enough : 19 ≤ bytes.length) (agree : bytes.take 19 = frame.take 19) :
    message_length bytes = .ok frame.length := by
  have first := @message_length_append (frame.take 19) (by rw [List.length_take]; omega) (frame.drop 19)
  have second := @message_length_append (bytes.take 19) (by rw [List.length_take]; omega) (bytes.drop 19)
  rw [List.take_append_drop] at first second
  rw [second,agree,← first,known]

/-- A frame that announces its own length, as every encoding does. -/
def Framed (frame : List UInt8) : Prop :=
  19 ≤ frame.length ∧ frame.length ≤ BGP_MAX_MESSAGE ∧ message_length frame = .ok frame.length

/-- What the accumulator does with a part of a stream of frames. -/
theorem next_message_frame {frame bytes : List UInt8} {rest : List (List UInt8)} (framed : Framed frame)
    (ahead : bytes <+: (frame :: rest).flatten) (four : Bool) :
    (bytes.length < frame.length → (⟨bytes⟩ : BgpStream).next_message four = .ok (none,⟨bytes⟩)) ∧
    (frame.length ≤ bytes.length → (∃ left, bytes = frame ++ left ∧ left <+: rest.flatten ∧
      (⟨bytes⟩ : BgpStream).next_message four = (BgpMessage.decode frame four).map (fun message => (some message,⟨left⟩)))) := by
  obtain ⟨long,-,known⟩ := framed
  rw [List.flatten_cons] at ahead
  have announced : 19 ≤ bytes.length → message_length bytes = .ok frame.length := by
    intro enough
    refine message_length_of_prefix known long enough ?_
    obtain ⟨behind,whole⟩ := ahead
    have both := congrArg (List.take 19) whole
    rwa [List.take_append_of_le_length enough,List.take_append_of_le_length long] at both
  constructor
  · intro partly
    unfold BgpStream.next_message
    by_cases short : bytes.length < 19
    · rw [if_pos short]
    · rw [if_neg short,announced (not_lt.mp short)]
      simp only
      rw [if_pos partly]
  · intro complete
    obtain ⟨left,rfl⟩ : ∃ left, bytes = frame ++ left := by
      obtain ⟨left,whole⟩ := List.prefix_of_prefix_length_le (List.prefix_append frame rest.flatten) ahead complete
      exact ⟨left,whole.symm⟩
    refine ⟨left,rfl,(List.prefix_append_right_inj frame).mp ahead,?_⟩
    have size : (frame ++ left).length = frame.length + left.length := List.length_append
    unfold BgpStream.next_message
    simp only
    rw [if_neg (by omega),announced (by omega)]
    simp only [List.take_left,List.drop_left]
    rw [if_neg (by omega)]
    cases BgpMessage.decode frame four <;> rfl

/-- A reader that has taken everything it could from the first bytes of a stream. -/
inductive Reads (width : List BgpMessage → Bool) (frames : List (List UInt8)) (received : List UInt8) : Reader → Prop
  | waiting {done rest : List (List UInt8)} {left : List UInt8} {messages : List BgpMessage} (split : frames = done ++ rest)
      (arrived : received = done.flatten ++ left) (ahead : left <+: rest.flatten)
      (incomplete : ∀ frame ∈ rest.head?, left.length < frame.length)
      (delivered : deliver width [] done = (messages,none)) : Reads width frames received ⟨⟨left⟩,messages,none,none⟩
  | stopped {done rest : List (List UInt8)} {left : List UInt8} {messages : List BgpMessage} {error : BgpError}
      (split : frames = done ++ rest) (arrived : done.flatten.length ≤ received.length)
      (bounded : left.length ≤ BGP_MAX_MESSAGE * 2) (delivered : deliver width [] done = (messages,some error)) :
      Reads width frames received ⟨⟨left⟩,messages,some error,none⟩

variable {frames : List (List UInt8)}

theorem drain_reads (framed : ∀ frame ∈ frames, Framed frame) {rounds : Nat} {done rest : List (List UInt8)}
    {left received : List UInt8} {messages : List BgpMessage} (split : frames = done ++ rest)
    (arrived : received = done.flatten ++ left) (ahead : left <+: rest.flatten)
    (delivered : deliver width [] done = (messages,none)) (enough : left.length ≤ rounds)
    (bounded : left.length ≤ BGP_MAX_MESSAGE * 2) :
    Reads width frames received (Reader.drain width rounds ⟨⟨left⟩,messages,none,none⟩) := by
  induction rounds generalizing done rest left messages with
  | zero =>
    have none : left = [] := List.length_eq_zero_iff.mp (Nat.le_zero.mp enough)
    refine .waiting split arrived ahead (fun frame member => ?_) delivered
    have long := (framed frame (by rw [split]; exact List.mem_append_right _ (List.mem_of_mem_head? member))).1
    rw [none,List.length_nil]
    omega
  | succ rounds ih =>
    unfold Reader.drain
    cases rest with
    | nil =>
      have none : left = [] := List.prefix_nil.mp ahead
      have stop : (⟨left⟩ : BgpStream).next_message (width messages) = .ok (Option.none,⟨left⟩) := by
        rw [none]
        rfl
      simp only [stop]
      exact .waiting split arrived ahead (by simp) delivered
    | cons frame rest =>
      have isFrame := framed frame (by rw [split]; exact List.mem_append_right _ List.mem_cons_self)
      obtain ⟨partly,complete⟩ := next_message_frame isFrame ahead (width messages)
      by_cases short : left.length < frame.length
      · simp only [partly short]
        refine .waiting split arrived ahead (fun other member => ?_) delivered
        cases member
        exact short
      · obtain ⟨behind,rfl,later,read⟩ := complete (not_lt.mp short)
        rw [List.length_append] at enough bounded
        have positive := isFrame.1
        have one : ∀ result, BgpMessage.decode frame (width messages) = result →
            deliver width [] (done ++ [frame]) = match result with
              | .error error => (messages,some error)
              | .ok message => (messages ++ [message],none) := by
          intro result decoded
          rw [deliver_append delivered,deliver,decoded]
          cases result <;> rfl
        have splitNext : frames = (done ++ [frame]) ++ rest := by rw [split,List.append_assoc]; rfl
        have arrivedNext : received = (done ++ [frame]).flatten ++ behind := by
          rw [arrived,List.flatten_append,List.flatten_singleton,List.append_assoc]
        cases decoded : BgpMessage.decode frame (width messages) with
        | error error =>
          rw [decoded] at read
          simp only [read,Except.map]
          refine .stopped splitNext ?_ (by rw [List.length_append]; omega) (one _ decoded)
          rw [arrivedNext,List.length_append]
          omega
        | ok message =>
          rw [decoded] at read
          simp only [read,Except.map]
          exact ih splitNext arrivedNext later (one _ decoded) (by omega) (by omega)

/-- Less than one message is left over. -/
theorem left_le {done rest : List (List UInt8)} {left : List UInt8} (framed : ∀ frame ∈ frames, Framed frame)
    (split : frames = done ++ rest) (ahead : left <+: rest.flatten)
    (incomplete : ∀ frame, rest.head? = some frame → left.length < frame.length) : left.length ≤ BGP_MAX_MESSAGE := by
  cases rest with
  | nil =>
    rw [List.prefix_nil.mp ahead]
    exact Nat.zero_le _
  | cons frame rest =>
    have most := (framed frame (by rw [split]; exact List.mem_append_right _ List.mem_cons_self)).2.1
    have less := incomplete frame rfl
    omega

/-- One chunk of the stream. -/
theorem feed_reads (framed : ∀ frame ∈ frames, Framed frame) {received chunk : List UInt8} {reader : Reader}
    (reads : Reads width frames received reader) (ahead : received ++ chunk <+: frames.flatten)
    (small : chunk.length ≤ BGP_MAX_MESSAGE) :
    Reads width frames (received ++ chunk) (reader.feed width chunk) := by
  cases reads with
  | @waiting done rest left messages split arrived leftAhead incomplete delivered =>
    have little := left_le framed split leftAhead incomplete
    have pushed : (⟨left⟩ : BgpStream).push chunk = .ok ⟨left ++ chunk⟩ := by
      rw [BgpStream.push,if_neg]
      simp only
      omega
    have later : left ++ chunk <+: rest.flatten := by
      rw [arrived,split,List.flatten_append,List.append_assoc] at ahead
      exact (List.prefix_append_right_inj _).mp ahead
    simp only [Reader.feed,Option.isSome_none,Bool.false_eq_true,if_false,pushed]
    refine drain_reads framed split ?_ later delivered le_rfl ?_
    · rw [arrived,List.append_assoc]
    · rw [List.length_append]
      omega
  | @stopped done rest left messages error split arrived bounded delivered =>
    simp only [Reader.feed,Option.isSome_some,if_true]
    refine .stopped split ?_ bounded delivered
    rw [List.length_append]
    omega

theorem feed_all_reads {width : List BgpMessage → Bool} {frames chunks : List (List UInt8)}
    (framed : ∀ frame ∈ frames, Framed frame) (ahead : chunks.flatten <+: frames.flatten)
    (small : ∀ chunk ∈ chunks, chunk.length ≤ BGP_MAX_MESSAGE) :
    Reads width frames chunks.flatten (chunks.foldl (Reader.feed width) .initial) := by
  induction chunks using List.reverseRecOn with
  | nil =>
    refine @Reads.waiting width frames [] [] frames [] [] rfl rfl (List.nil_prefix) (fun frame member => ?_) rfl
    have long := (framed frame (List.mem_of_mem_head? member)).1
    simp only [List.length_nil]
    omega
  | append_singleton chunks chunk ih =>
    rw [List.flatten_append,List.flatten_singleton] at ahead ⊢
    rw [List.foldl_append,List.foldl_cons,List.foldl_nil]
    have before := ih ((List.prefix_append _ _).trans ahead) (fun other member => small other (List.mem_append_left _ member))
    exact feed_reads framed before ahead (small chunk (List.mem_append_right _ (List.mem_singleton_self chunk)))

/-- Such a reader has delivered exactly the complete messages. -/
theorem reads_delivered {received : List UInt8} {reader : Reader} (reads : Reads width frames received reader) :
    deliver width [] (complete received.length frames) = (reader.messages,reader.decode_error) := by
  cases reads with
  | @waiting done rest left messages split arrived ahead incomplete delivered =>
    rw [arrived,split,List.length_append,complete_eq incomplete]
    exact delivered
  | @stopped done rest left messages error split arrived bounded delivered =>
    obtain ⟨more,whole⟩ := @complete_append _ _ rest _ arrived
    rw [split,whole]
    exact deliver_append_error delivered more

theorem reads_bounded {received : List UInt8} {reader : Reader} (framed : ∀ frame ∈ frames, Framed frame)
    (reads : Reads width frames received reader) :
    reader.push_error = none ∧ reader.input.bytes.length ≤ BGP_MAX_MESSAGE * 2 := by
  cases reads with
  | @waiting done rest left messages split arrived ahead incomplete delivered =>
    have little := left_le framed split ahead incomplete
    exact ⟨rfl,by simp only; omega⟩
  | stopped split arrived bounded delivered => exact ⟨rfl,bounded⟩

/-- Encodings that decode to their messages are delivered as these. -/
theorem deliver_each {width : List BgpMessage → Bool} {pairs : List (BgpMessage × List UInt8)} {read : List BgpMessage}
    (decodes : ∀ earlier pair later, pairs = earlier ++ pair :: later →
      BgpMessage.decode pair.2 (width (read ++ earlier.map (·.1))) = .ok pair.1) :
    deliver width read (pairs.map (·.2)) = (read ++ pairs.map (·.1),none) := by
  induction pairs generalizing read with
  | nil => simp [deliver]
  | cons pair pairs ih =>
    have first := decodes [] pair pairs rfl
    rw [List.map_nil,List.append_nil] at first
    rw [List.map_cons,deliver,first]
    simp only
    rw [ih]
    · rw [List.map_cons,List.append_assoc]
      rfl
    · intro earlier next later behind
      have whole := decodes (pair :: earlier) next later (by rw [behind]; rfl)
      rwa [List.map_cons,← List.singleton_append,← List.append_assoc] at whole

/-! ### End to end -/

theorem complete_initial (size : Nat) (frames : List (List UInt8)) : complete size frames <+: frames := by
  induction frames generalizing size with
  | nil => exact List.nil_prefix
  | cons frame frames ih =>
    rw [complete]
    split
    · exact (List.prefix_append_right_inj [frame]).mpr (ih _)
    · exact List.nil_prefix

/-- For every sequence of queued messages, send capacities, refused segments and
    failures: what TCP was given is a prefix of whole encodings, also after a
    failure, which leaves the messages begun and the NOTIFICATION. However these
    bytes are cut into chunks, the reader has delivered the complete messages,
    decoded in order, and never has too many bytes. -/
theorem stream_framing (fsm : BgpSession) (operations : List Operation) :
    let transport := operations.foldl Transport.apply (Transport.initial fsm)
    (∀ pair ∈ transport.queued, ∃ four, pair.1.encode four = .ok pair.2) ∧
    transport.sent <+: transport.encodings.flatten ∧
    (∀ error now (later : List Operation), (∀ error now, .fail error now ∉ later) →
      let failed := later.foldl Transport.apply (transport.fail error now)
      failed.queued = transport.queued.take (begun transport.sent.length transport.encodings).length ++
          [Transport.notification error] ∧
        failed.sent <+: failed.encodings.flatten) ∧
    ∀ (width : List BgpMessage → Bool) (chunks : List (List UInt8)), (∀ chunk ∈ chunks, chunk.length ≤ BGP_MAX_MESSAGE) →
      chunks.flatten <+: transport.sent →
      let reader := chunks.foldl (Reader.feed width) .initial
      let arrived := (complete chunks.flatten.length transport.encodings).length
      reader.push_error = none ∧ reader.input.bytes.length ≤ BGP_MAX_MESSAGE * 2 ∧
      deliver width [] (transport.encodings.take arrived) = (reader.messages,reader.decode_error) ∧
      ((∀ earlier pair later, transport.queued.take arrived = earlier ++ pair :: later →
        BgpMessage.decode pair.2 (width (earlier.map (·.1))) = .ok pair.1) →
          reader.messages = (transport.queued.take arrived).map (·.1) ∧ reader.decode_error = none) := by
  intro transport
  have aligned : transport.Aligned := Transport.run_aligned (Transport.initial_aligned fsm) operations
  refine ⟨aligned.encoded,aligned.sent_whole,?_,?_⟩
  · intro error now later kept
    have failed := Transport.fail_aligned aligned error now
    exact ⟨Transport.closing_queued (Transport.stream_fail transport.stream error now).2.2 kept,
      (Transport.run_aligned failed later).sent_whole⟩
  · intro width chunks small ahead
    have framed : ∀ frame ∈ transport.encodings, Framed frame := by
      intro frame member
      obtain ⟨pair,queued,rfl⟩ := List.mem_map.mp member
      obtain ⟨four,wrote⟩ := aligned.encoded pair queued
      exact Transport.nonempty_of_encoded wrote
    have reads := @feed_all_reads width _ _ framed (ahead.trans aligned.sent_whole) small
    obtain ⟨pushed,bounded⟩ := reads_bounded framed reads
    have delivered := reads_delivered reads
    have taken := List.prefix_iff_eq_take.mp (complete_initial chunks.flatten.length transport.encodings)
    rw [taken] at delivered
    refine ⟨pushed,bounded,delivered,fun decodes => ?_⟩
    have each := @deliver_each width _ [] decodes
    rw [List.map_take] at each
    have same := delivered.symm.trans each
    rw [Prod.mk.injEq] at same
    exact ⟨same.1.trans (List.nil_append _),same.2⟩

end Rios.Bgp
