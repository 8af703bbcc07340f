import Rios.QosBuckets
import Rios.QosLedger

/-!
# Deadlines and conformance of shaped classes

The earliest time of `next_ready` is exact, not early and not late, and however
often the scheduler is asked. Over any window a shaper or a policer lets its
burst through and what its rate adds, no more.
-/

namespace Rios.QosDeadlines
open Rios.Machine Rios.Qos Rios.QosLedger
open Rios.Queue (SimTime ScheduleError)
open Rios.FairService (WellFormed eligible_head_some)

universe u
variable {T : Type u}

/-! ### Looking leaves no trace -/

/-- What a call returns. -/
inductive Reply (T : Type u) where
  | enqueued (result : Except (QueueRejected T) Unit)
  | dequeued (departure : Option (QosDeparture T))
  | deadline (result : Except ScheduleError (Option SimTime))
  | dropped (packets : List T)

def reply (s : QosScheduler T) : Call T → Reply T
  | .enqueue index now packet bytes in_flight => .enqueued (s.enqueue index now packet bytes in_flight).1
  | .dequeue_ready now => .dequeued (s.dequeue_ready now).1
  | .next_ready now => .deadline (s.next_ready now).1
  | .drain _ => .dropped s.drain.1

/-- `QosScheduler::statistics`. -/
def statistics (s : QosScheduler T) : List (QosClassCounters × Nat) := s.classes.map (fun c => (c.counters,c.packets.length))

/-- A class with its shaper brought up to a time. -/
def settleClass (now : SimTime) (c : QosClass T) : QosClass T := { c with shape := c.shape.map (·.refill now) }

/-- A scheduler with its shapers brought up to a time. -/
def settle (now : SimTime) (s : QosScheduler T) : QosScheduler T := { s with classes := s.classes.map (settleClass now) }

section Settled
variable {now later : SimTime} {c next : QosClass T} {s : QosScheduler T}

theorem settleClass_twice (passed : now ≤ later) (c : QosClass T) :
    settleClass later (settleClass now c) = settleClass later c := by
  unfold settleClass
  cases shape : c.shape with
  | none => simp
  | some bucket => simp [TokenBucket.refill_refill bucket passed]

theorem settle_twice (passed : now ≤ later) (s : QosScheduler T) : settle later (settle now s) = settle later s := by
  unfold settle
  simp [settleClass_twice passed]

theorem settle_statistics (now : SimTime) (s : QosScheduler T) : statistics (settle now s) = statistics s := by
  simp [statistics,settle,settleClass]

/-- A class that was looked at is brought up to the same state. -/
theorem looked_settle (looked : Looked now c next) : settleClass now next = settleClass now c := by
  cases looked with
  | kept => rfl
  | refilled => exact settleClass_twice le_rfl c

theorem looked_settles {classes others : List (QosClass T)} (looked : List.Forall₂ (Looked now) classes others) :
    others.map (settleClass now) = classes.map (settleClass now) := by
  induction looked with
  | nil => rfl
  | cons head _ ih => rw [List.map_cons,List.map_cons,ih,looked_settle head]

theorem eligible_head_settle (now : SimTime) (c : QosClass T) :
    ((settleClass now c).eligible_head now).1 = (c.eligible_head now).1 := by
  obtain ⟨config,priority,police,shape,packets,last,counters⟩ := c
  cases packets with
  | nil => rfl
  | cons packet packets =>
    cases shape with
    | none => rfl
    | some bucket =>
      have same := TokenBucket.available_refill bucket now packet.bytes
      simp only [settleClass,QosClass.eligible_head,Option.map_some]
      rw [same]

/-- A departure charges a shaper as it is, looked at or not. -/
theorem transmit_looked (looked : Looked now c next) (packet : Queued T) (packets : List (Queued T)) :
    next.transmit now packet packets = c.transmit now packet packets := by
  cases looked with
  | kept => rfl
  | refilled =>
    obtain ⟨config,priority,police,shape,waiting,last,counters⟩ := c
    cases shape with
    | none => rfl
    | some bucket =>
      have same := TokenBucket.take_refill bucket now packet.bytes
      simp only [QosClass.transmit,Option.map_some]
      rw [same]

theorem reset_idle_settle (now : SimTime) (s : QosScheduler T) : (settle now s).reset_idle = settle now s.reset_idle := by
  unfold QosScheduler.reset_idle
  by_cases idle : s.length = 0
  · rw [if_pos idle,if_pos (show (settle now s).length = 0 from idle)]
    simp [settle,settleClass]
  · rw [if_neg idle,if_neg (show ¬(settle now s).length = 0 from idle)]

/-- The checks of an arrival do not read the shaper. -/
theorem admission_settle (at_time : SimTime) (c : QosClass T) (now : SimTime) (bytes : UInt64) (congested full : Bool) :
    (settleClass at_time c).admission now bytes congested full =
      ((c.admission now bytes congested full).1,settleClass at_time (c.admission now bytes congested full).2) := by
  obtain ⟨config,priority,police,shape,packets,last,counters⟩ := c
  unfold settleClass QosClass.admission
  dsimp only
  generalize QosClass.refuses police now bytes = policing
  generalize QosClass.refuses priority now bytes = priorities
  obtain ⟨policed,police⟩ := policing
  obtain ⟨exceeded,priority⟩ := priorities
  dsimp only
  cases policed with
  | true => rfl
  | false =>
    generalize (exceeded && congested) = refused
    cases refused with
    | true => rfl
    | false =>
      generalize config.shape.any (fun rate => rate.burst_bytes < bytes) = bursts
      cases bursts with
      | true => rfl
      | false => cases full <;> rfl

theorem enqueue_settle (at_time : SimTime) (s : QosScheduler T) (index : Nat) (now : SimTime) (packet : T) (bytes : UInt64)
    (in_flight : Nat) : (settle at_time s).enqueue index now packet bytes in_flight =
      ((s.enqueue index now packet bytes in_flight).1,settle at_time (s.enqueue index now packet bytes in_flight).2) := by
  unfold QosScheduler.enqueue
  dsimp only
  rw [reset_idle_settle]
  generalize s.reset_idle = s
  have found : (settle at_time s).classes[index]? = (s.classes[index]?).map (settleClass at_time) := by simp [settle]
  rw [found]
  cases s.classes[index]? with
  | none => rfl
  | some c =>
    dsimp only [Option.map_some]
    rw [admission_settle]
    have same : (settle at_time s).length = s.length ∧ (settle at_time s).capacity = s.capacity := ⟨rfl,rfl⟩
    rw [same.1,same.2]
    generalize c.admission now bytes _ _ = outcome
    obtain ⟨reason,c⟩ := outcome
    cases reason with
    | some reason => simp [settle,List.map_set]
    | none => simp [settle,List.map_set,settleClass,QosScheduler.tag_of,QosClass.service]

theorem candidates_settle (now : SimTime) (s : QosScheduler T) : (settle now s).candidates now = s.candidates now := by
  unfold QosScheduler.candidates settle
  dsimp only
  rw [List.zipIdx_map,List.filterMap_map]
  congr 1
  funext entry
  simp only [Function.comp_apply,Prod.map_fst,Prod.map_snd,eligible_head_settle]
  rfl

theorem heads_settle (now : SimTime) (classes : List (QosClass T)) :
    (classes.map (fun c => (c.eligible_head now).2)).map (settleClass now) = classes.map (settleClass now) := by
  rw [List.map_map]
  exact List.map_congr_left (fun c _ => looked_settle (eligible_head_looked c now))

theorem dequeue_settle (now : SimTime) (s : QosScheduler T) :
    ((settle now s).dequeue_ready now).1 = (s.dequeue_ready now).1 ∧
      settle now ((settle now s).dequeue_ready now).2 = settle now (s.dequeue_ready now).2 := by
  have heads : ((settle now s).classes.map (fun c => (c.eligible_head now).2)).map (settleClass now) =
      (s.classes.map (fun c => (c.eligible_head now).2)).map (settleClass now) := by
    rw [heads_settle,heads_settle]
    exact congrArg QosScheduler.classes (settle_twice le_rfl s)
  have unchanged : settle now { settle now s with classes := (settle now s).classes.map (fun c => (c.eligible_head now).2) } =
      settle now { s with classes := s.classes.map (fun c => (c.eligible_head now).2) } :=
    congrArg (fun classes => { s with classes }) heads
  unfold QosScheduler.dequeue_ready
  dsimp only
  rw [candidates_settle]
  generalize ((s.candidates now).argmin (·.1)).map (·.2) = selected
  cases selected with
  | none => exact ⟨rfl,unchanged⟩
  | some index =>
    have first : ((settle now s).classes.map (fun c => (c.eligible_head now).2))[index]? =
        (s.classes[index]?).map (fun c => ((settleClass now c).eligible_head now).2) := by
      rw [settle,List.map_map,List.getElem?_map]
      rfl
    have second : (s.classes.map (fun c => (c.eligible_head now).2))[index]? =
        (s.classes[index]?).map (fun c => (c.eligible_head now).2) := List.getElem?_map ..
    simp only [Option.bind_some,first,second]
    cases s.classes[index]? with
    | none => exact ⟨rfl,unchanged⟩
    | some c =>
      have looked := eligible_head_looked c now
      have settled := eligible_head_looked (settleClass now c) now
      have queue : ((settleClass now c).eligible_head now).2.packets = c.packets := settled.frame.1
      have priority : ((settleClass now c).eligible_head now).2.priority = c.priority := settled.frame.2.2.2.2
      simp only [Option.map_some,queue,looked.frame.1]
      cases c.packets with
      | nil => exact ⟨rfl,unchanged⟩
      | cons packet packets =>
        refine ⟨rfl,?_⟩
        -- a settled class departs like the class itself
        have departs : ((settleClass now c).eligible_head now).2.transmit now packet packets =
            (c.eligible_head now).2.transmit now packet packets := by
          rw [transmit_looked settled,transmit_looked looked]
          exact transmit_looked .refilled packet packets
        dsimp only
        rw [departs,priority,looked.frame.2.2.2.2]
        unfold settle at heads ⊢
        simp only [List.map_set,heads]

/-- What the shapers answer at one time settles the loop. -/
theorem next_ready_with_settle {ready : TokenBucket → SimTime → UInt64 → Except ScheduleError SimTime × TokenBucket}
    (same : ∀ bucket bytes, (ready (bucket.refill now) now bytes).1 = (ready bucket now bytes).1)
    (classes : List (QosClass T)) (least : Option SimTime) :
    (QosScheduler.next_ready_with ready now (classes.map (settleClass now)) least).1 =
      (QosScheduler.next_ready_with ready now classes least).1 := by
  induction classes generalizing least with
  | nil => rfl
  | cons c rest ih =>
    obtain ⟨config,priority,police,shape,packets,last,counters⟩ := c
    cases packets with
    | nil => exact ih least
    | cons packet packets =>
      cases shape with
      | none => exact ih _
      | some bucket =>
        have answers := same bucket packet.bytes
        simp only [List.map_cons,settleClass,Option.map_some,QosScheduler.next_ready_with]
        cases second : ready bucket now packet.bytes with
        | mk result after =>
          cases first : ready (bucket.refill now) now packet.bytes with
          | mk other settled =>
            rw [first,second] at answers
            obtain rfl : other = result := answers
            cases other with
            | error error => rfl
            | ok time => exact ih _

theorem next_ready_settle (now : SimTime) (s : QosScheduler T) :
    ((settle now s).next_ready now).1 = (s.next_ready now).1 ∧
      settle now ((settle now s).next_ready now).2 = settle now (s.next_ready now).2 := by
  have looked := looked_settles (next_ready_looked s now)
  have settled := looked_settles (next_ready_looked (settle now s) now)
  have deadlines : ∀ (bucket : TokenBucket) bytes, (TokenBucket.ready_at (bucket.refill now) now bytes).1 =
      (bucket.ready_at now bytes).1 := by
    intro bucket bytes
    simp only [TokenBucket.ready_at_eq]
    exact TokenBucket.deadline_refill bucket now bytes
  refine ⟨?_,?_⟩
  · simp only [QosScheduler.next_ready,QosScheduler.next_ready_from_eq]
    exact next_ready_with_settle deadlines s.classes none
  · have same : ((settle now s).next_ready now).2.classes.map (settleClass now) = (s.next_ready now).2.classes.map (settleClass now) := by
      rw [looked,settled]
      exact congrArg QosScheduler.classes (settle_twice le_rfl s)
    exact congrArg (fun classes => { s with classes }) same

/-- A call sees the settled scheduler as it is, and leads to the same settled scheduler. -/
theorem call_settle (s : QosScheduler T) (call : Call T) :
    reply (settle call.now s) call = reply s call ∧ settle call.now (after (settle call.now s) call) = settle call.now
        (after s call) := by
  cases call with
  | enqueue index now packet bytes in_flight =>
    have same := enqueue_settle now s index now packet bytes in_flight
    simp only [reply,after,Call.now,same]
    exact ⟨trivial,settle_twice le_rfl _⟩
  | dequeue_ready now =>
    obtain ⟨departure,settled⟩ := dequeue_settle now s
    exact ⟨congrArg Reply.dequeued departure,settled⟩
  | next_ready now =>
    obtain ⟨result,settled⟩ := next_ready_settle now s
    exact ⟨congrArg Reply.deadline result,settled⟩
  | drain now =>
    refine ⟨?_,?_⟩
    · simp only [reply,QosScheduler.drain,settle,List.flatMap_map,settleClass]
    · simp only [after,Call.now,QosScheduler.drain,settle,List.map_map]
      congr 1
      refine List.map_congr_left ?_
      intro c _
      exact settleClass_twice le_rfl { c with packets := [] }

end Settled

/-- A call that takes no packet and brings none. -/
def Polls (s : QosScheduler T) : Call T → Prop
  | .next_ready _ => True
  | .dequeue_ready now => (s.dequeue_ready now).1 = none
  | _ => False

/-- The replies of a run, each with the statistics after it. -/
def replies : QosScheduler T → List (Call T) → List (Reply T × List (QosClassCounters × Nat))
  | _,[] => []
  | s,call :: calls => (reply s call,statistics (after s call)) :: replies (after s call) calls

/-- In a run with marked calls, the marked ones are polls. -/
def OnlyPolls : QosScheduler T → List (Bool × Call T) → Prop
  | _,[] => True
  | s,(additional,call) :: rest => (additional = true → Polls s call) ∧ OnlyPolls (after s call) rest

/-- The replies of a run with marked calls, without those of the marked ones. -/
def kept : QosScheduler T → List (Bool × Call T) → List (Reply T × List (QosClassCounters × Nat))
  | _,[] => []
  | s,(true,call) :: rest => kept (after s call) rest
  | s,(false,call) :: rest => (reply s call,statistics (after s call)) :: kept (after s call) rest

/-- The run without the marked calls. -/
def requested (calls : List (Bool × Call T)) : List (Call T) := (calls.filter (fun call => !call.1)).map (·.2)

/-- The calls come in order of time, from a time on. -/
def Ordered (start : SimTime) (calls : List (Call T)) : Prop := (start :: calls.map Call.now).Pairwise (· ≤ ·)

theorem Ordered.head {start : SimTime} {call : Call T} {calls : List (Call T)} (ordered : Ordered start (call :: calls)) :
    start ≤ call.now ∧ Ordered call.now calls := by
  obtain ⟨first,rest⟩ := List.pairwise_cons.mp ordered
  exact ⟨first _ (List.mem_cons_self ..),rest⟩

variable {s : QosScheduler T}

theorem poll_settle {call : Call T} (polls : Polls s call) :
    settle call.now (after s call) = settle call.now s := by
  cases call with
  | enqueue index now packet bytes in_flight => exact polls.elim
  | drain now => exact polls.elim
  | next_ready now => exact congrArg (fun classes => { s with classes }) (looked_settles (next_ready_looked s now))
  | dequeue_ready now =>
    rcases dequeue_outcome s now with ⟨result,-⟩ | ⟨k,c,packet,packets,virtual,-,-,-,-,result⟩
    · rw [after,result]
      exact congrArg (fun classes => { s with classes }) (heads_settle now s.classes)
    · rw [Polls,result] at polls
      cases polls

/-- Schedulers that differ in how far their shapers are brought up answer alike. -/
theorem call_same {start : SimTime} {other : QosScheduler T} (same : settle start s = settle start other) (call : Call T)
    (passed : start ≤ call.now) :
    reply s call = reply other call ∧ settle call.now (after s call) = settle call.now (after other call) := by
  have alike : settle call.now s = settle call.now other := by
    rw [← settle_twice passed s,same,settle_twice passed]
  obtain ⟨replied,settled⟩ := call_settle s call
  obtain ⟨replied',settled'⟩ := call_settle other call
  constructor
  · rw [← replied,alike,replied']
  · rw [← settled,alike,settled']

/-- Additional polls change no reply of the other calls. -/
theorem kept_replies {start : SimTime} {other : QosScheduler T} (same : settle start s = settle start other)
    (calls : List (Bool × Call T)) (ordered : Ordered start (calls.map (·.2))) (polls : OnlyPolls s calls) :
    kept s calls = replies other (requested calls) := by
  induction calls generalizing start s other with
  | nil => rfl
  | cons marked rest ih =>
    obtain ⟨additional,call⟩ := marked
    obtain ⟨passed,later⟩ := ordered.head
    obtain ⟨poll,others⟩ := polls
    cases additional with
    | true =>
      have alike : settle call.now s = settle call.now other := by
        rw [← settle_twice passed s,same,settle_twice passed]
      exact ih ((poll_settle (poll rfl)).trans alike) later others
    | false =>
      obtain ⟨answers,next⟩ := call_same same call passed
      have counts : statistics (after s call) = statistics (after other call) := by
        rw [← settle_statistics call.now,next,settle_statistics]
      have continues := ih next later others
      simp only [kept,requested,List.filter_cons,Bool.not_false,if_true,List.map_cons,replies,answers,counts] at continues ⊢
      rw [continues]

/-! ### The earliest deadline -/

/-- When the head of a class may leave, by the deadlines of the shapers. -/
def due (deadline : TokenBucket → SimTime → UInt64 → Except ScheduleError SimTime) (now : SimTime) (c : QosClass T) :
    Option (Except ScheduleError SimTime) :=
  match c.packets with
  | [] => none
  | packet :: _ => some (c.shape.elim (.ok now) (fun bucket => deadline bucket now packet.bytes))

theorem due_shaped (deadline : TokenBucket → SimTime → UInt64 → Except ScheduleError SimTime) (now : SimTime)
    {c : QosClass T} {packet : Queued T} {packets : List (Queued T)} {bucket : TokenBucket}
    (queued : c.packets = packet :: packets) (shaped : c.shape = some bucket) :
    due deadline now c = some (deadline bucket now packet.bytes) := by
  simp only [due,queued,shaped,Option.elim_some]

/-- The loop of `next_ready` finds the least deadline. -/
theorem next_ready_with_due {ready : TokenBucket → SimTime → UInt64 → Except ScheduleError SimTime × TokenBucket}
    {deadline : TokenBucket → SimTime → UInt64 → Except ScheduleError SimTime} {now : SimTime}
    (answers : ∀ bucket bytes, (ready bucket now bytes).1 = deadline bucket now bytes) (classes : List (QosClass T))
    {least next : Option SimTime} (found : (QosScheduler.next_ready_with ready now classes least).1 = .ok next) :
    (∀ c ∈ classes, ∀ answer, due deadline now c = some answer → ∃ time first, answer = .ok time ∧ next = some first ∧ first ≤ time) ∧
      (next = least ∨ ∃ c ∈ classes, ∃ first, next = some first ∧ due deadline now c = some (.ok first)) ∧
      ∀ old, least = some old → ∃ first, next = some first ∧ first ≤ old := by
  induction classes generalizing least with
  | nil =>
    obtain rfl : least = next := by
      cases found
      rfl
    exact ⟨by simp,.inl rfl,fun old known => ⟨old,known,le_rfl⟩⟩
  | cons c rest ih =>
    -- a class with a deadline passes the smaller of it and the least one on
    have step : ∀ time, due deadline now c = some (.ok time) →
        (QosScheduler.next_ready_with ready now rest (some (least.elim time (min · time)))).1 = .ok next →
        (∀ d ∈ c :: rest, ∀ answer, due deadline now d = some answer →
            ∃ time first, answer = .ok time ∧ next = some first ∧ first ≤ time) ∧
          (next = least ∨ ∃ d ∈ c :: rest, ∃ first, next = some first ∧ due deadline now d = some (.ok first)) ∧
          ∀ old, least = some old → ∃ first, next = some first ∧ first ≤ old := by
      intro time here found
      obtain ⟨each,origin,below⟩ := ih found
      obtain ⟨first,earliest,early⟩ := below _ rfl
      have smaller : first ≤ time ∧ ∀ old, least = some old → first ≤ old := by
        cases least with
        | none => exact ⟨early,by simp⟩
        | some old =>
          have both := le_min_iff.mp early
          refine ⟨both.2,?_⟩
          intro other known
          cases known
          exact both.1
      refine ⟨?_,?_,fun old known => ⟨first,earliest,smaller.2 old known⟩⟩
      · intro d member answer answered
        rcases List.mem_cons.mp member with rfl | inside
        · rw [here] at answered
          cases answered
          exact ⟨time,first,rfl,earliest,smaller.1⟩
        · exact each d inside answer answered
      · rcases origin with known | ⟨d,inside,rest_first⟩
        · cases least with
          | none => exact .inr ⟨c,List.mem_cons_self ..,time,known,here⟩
          | some old =>
            rcases le_total old time with before | before
            · exact .inl (known.trans (congrArg some (min_eq_left before)))
            · exact .inr ⟨c,List.mem_cons_self ..,time,known.trans (congrArg some (min_eq_right before)),here⟩
        · exact .inr ⟨d,List.mem_cons_of_mem _ inside,rest_first⟩
    obtain ⟨config,priority,police,shape,packets,last,counters⟩ := c
    cases packets with
    | nil =>
      obtain ⟨each,origin,below⟩ := ih found
      refine ⟨?_,?_,below⟩
      · intro d member answer answered
        rcases List.mem_cons.mp member with rfl | inside
        · cases answered
        · exact each d inside answer answered
      · rcases origin with known | ⟨d,inside,rest_first⟩
        · exact .inl known
        · exact .inr ⟨d,List.mem_cons_of_mem _ inside,rest_first⟩
    | cons packet packets =>
      cases shape with
      | none => exact step now rfl found
      | some bucket =>
        simp only [QosScheduler.next_ready_with] at found
        cases answer : ready bucket now packet.bytes with
        | mk result after =>
          rw [answer] at found
          cases result with
          | error error => cases found
          | ok time =>
            refine step time ?_ found
            simp [due,← answers,answer]

/-! ### The classes along a run -/

/-- The bucket of a rate limit, up to a time. -/
def Held (passed : SimTime) (limit : Option RateLimit) (bucket : Option TokenBucket) : Prop :=
  bucket.map (·.rate) = limit ∧ ∀ b ∈ bucket, 0 < b.rate.bits_per_second.toNat ∧ b.updated ≤ passed

/-- A class of a configuration whose buckets are up to a time and whose frames fit its shaper. -/
structure Sound (config : QueueClassConfig) (passed : SimTime) (c : QosClass T) : Prop where
  configured : c.config = config
  shape : Held passed config.shape c.shape
  police : Held passed config.police c.police
  fits : ∀ rate ∈ config.shape, ∀ packet ∈ c.packets, packet.bytes ≤ rate.burst_bytes

variable {bucket : Option TokenBucket} {limit : Option RateLimit}

/-- What keeps the rate of a bucket and brings it up to a time keeps it held. -/
theorem Held.map {passed now : SimTime} (held : Held passed limit bucket) (later : passed ≤ now)
    (f : TokenBucket → TokenBucket) (frame : ∀ b, (f b).rate = b.rate ∧ (f b).updated = max now b.updated) :
    Held now limit (bucket.map f) := by
  obtain ⟨rates,sound⟩ := held
  refine ⟨?_,?_⟩
  · rw [Option.map_map,← rates]
    exact Option.map_congr (fun b _ => (frame b).1)
  · intro b member
    obtain ⟨old,known,rfl⟩ := Option.map_eq_some_iff.mp member
    obtain ⟨positive,updated⟩ := sound old known
    rw [(frame old).1,(frame old).2]
    exact ⟨positive,max_le le_rfl (updated.trans later)⟩

/-- The same for what a function leaves beside its answer. -/
theorem Held.spent (take : TokenBucket → SimTime → UInt64 → Bool × TokenBucket) {passed now : SimTime} {bytes : UInt64}
    (frame : ∀ b : TokenBucket, (take b now bytes).2.rate = b.rate ∧ (take b now bytes).2.updated = max now b.updated)
    (held : Held passed limit bucket) (later : passed ≤ now) :
    Held now limit (bucket.map (fun b => (take b now bytes).2)) :=
  held.map later _ frame

theorem Held.take {passed now : SimTime} (held : Held passed limit bucket) (later : passed ≤ now) (bytes : UInt64) :
    Held now limit (bucket.map (fun b => (b.take now bytes).2)) :=
  Held.spent TokenBucket.take (fun b => b.take_frame now bytes) held later

theorem Held.later {passed now : SimTime} (held : Held passed limit bucket) (later : passed ≤ now) :
    Held now limit bucket :=
  ⟨held.1,fun b member => ⟨(held.2 b member).1,(held.2 b member).2.trans later⟩⟩

theorem refuses_map (bucket : Option TokenBucket) (now : SimTime) (bytes : UInt64) :
    (QosClass.refuses bucket now bytes).2 = bucket.map (fun b => (b.take now bytes).2) := by
  cases bucket <;> rfl

/-- What an arrival's checks keep of a class. -/
theorem seen_frame (c : QosClass T) (now : SimTime) (bytes : UInt64) (priority : Option TokenBucket)
    (reason : Option QueueRejectReason) : (seen c now bytes priority reason).config = c.config ∧
      (seen c now bytes priority reason).shape = c.shape ∧ (seen c now bytes priority reason).packets = c.packets ∧
      (seen c now bytes priority reason).police = c.police.map (fun b => (b.take now bytes).2) := by
  rw [← refuses_map]
  unfold seen
  exact ⟨rfl,rfl,rfl,rfl⟩

/-- What a departure keeps of a class, and what it charges. -/
theorem transmit_frame (c : QosClass T) (now : SimTime) (packet : Queued T) (packets : List (Queued T)) :
    (c.transmit now packet packets).config = c.config ∧ (c.transmit now packet packets).police = c.police ∧
      (c.transmit now packet packets).packets = packets ∧
      (c.transmit now packet packets).shape = c.shape.map (fun b => (b.take now packet.bytes).2) := by
  unfold QosClass.transmit
  exact ⟨rfl,rfl,rfl,rfl⟩

section Classes
variable {config : QueueClassConfig} {passed now : SimTime} {c next : QosClass T} {e : Event T}

theorem Sound.later (sound : Sound config passed c) (later : passed ≤ now) : Sound config now c :=
  ⟨sound.configured,sound.shape.later later,sound.police.later later,sound.fits⟩

theorem Sound.looked (sound : Sound config passed c) (later : passed ≤ now) (looked : Looked now c next) :
    Sound config now next := by
  cases looked with
  | kept => exact sound.later later
  | refilled =>
    exact ⟨sound.configured,sound.shape.map later _ (fun b => b.refill_frame now),sound.police.later later,sound.fits⟩

/-- Every event keeps a class sound. -/
theorem Sound.moves (sound : Sound config passed c) (later : passed ≤ now) (moves : Moves now e c next) :
    Sound config now next := by
  cases moves with
  | rest c last looked =>
    have tagged : Sound config passed { c with last_finish := last } := ⟨sound.configured,sound.shape,sound.police,sound.fits⟩
    exact tagged.looked later looked
  | rejected c last reason bytes priority known strict =>
    obtain ⟨own,shape,packets,police⟩ := seen_frame { c with last_finish := last } now bytes priority (some reason)
    constructor
    · rw [own]
      exact sound.configured
    · rw [shape]
      exact sound.shape.later later
    · rw [police]
      exact sound.police.take later bytes
    · rw [packets]
      exact sound.fits
  | accepted c packet bytes finish priority strict conforms short =>
    obtain ⟨own,shape,packets,police⟩ := seen_frame c now bytes priority none
    unfold queue
    generalize seen c now bytes priority none = checked at own shape packets police
    constructor
    · exact own.trans sound.configured
    · exact shape ▸ sound.shape.later later
    · exact police ▸ sound.police.take later bytes
    · intro rate limited queued member
      rcases List.mem_append.mp member with old | new
      · exact sound.fits rate limited queued (packets ▸ old)
      · obtain rfl := List.mem_singleton.mp new
        rw [sound.configured] at short
        exact short rate limited
  | transmitted c packet packets queued available =>
    rw [transmit_looked (eligible_head_looked c now)]
    obtain ⟨own,police,remaining,shape⟩ := transmit_frame c now packet packets
    generalize c.transmit now packet packets = sent at own police remaining shape ⊢
    constructor
    · exact own.trans sound.configured
    · exact shape ▸ sound.shape.take later packet.bytes
    · exact police ▸ sound.police.later later
    · intro rate limited other member
      exact sound.fits rate limited other (queued ▸ List.mem_cons_of_mem _ (remaining ▸ member))
  | drained c =>
    exact ⟨sound.configured,sound.shape.later later,sound.police.later later,by simp⟩

/-- A run keeps a class sound. -/
theorem run_sound {s : QosScheduler T} {k : Nat} (found : s.classes[k]? = some c) (sound : Sound config passed c)
    (calls : List (Call T)) (ordered : Ordered passed calls) (later : passed ≤ now)
    (before : ∀ call ∈ calls, call.now ≤ now) :
    ∃ last, (afterAll s calls).classes[k]? = some last ∧ Sound config now last := by
  induction calls generalizing s c passed with
  | nil => exact ⟨c,found,sound.later later⟩
  | cons call rest ih =>
    obtain ⟨first,others⟩ := ordered.head
    obtain ⟨next,there,moves⟩ := after_moves s call found
    obtain ⟨earlier,remaining⟩ := List.forall_mem_cons.mp before
    exact ih there (sound.moves first moves) others earlier remaining

/-- The head of a sound class may leave exactly from its deadline on. -/
theorem eligible_due {time later : SimTime} (sound : Sound config now c)
    (deadline : due TokenBucket.deadline now c = some (.ok time)) (after_now : now ≤ later) :
    ((c.eligible_head later).1.isSome ↔ time ≤ later) ∧ now ≤ time := by
  have fits := sound.fits
  have held := sound.shape
  obtain ⟨own,priority,police,shape,packets,last,counters⟩ := c
  cases packets with
  | nil => cases deadline
  | cons packet packets =>
    cases shape with
    | none =>
      obtain rfl : now = time := by
        cases deadline
        rfl
      exact ⟨⟨fun _ => after_now,fun _ => rfl⟩,le_rfl⟩
    | some bucket =>
      obtain ⟨positive,updated⟩ := held.2 bucket rfl
      have small : packet.bytes ≤ bucket.rate.burst_bytes := fits bucket.rate held.1.symm packet (List.mem_cons_self ..)
      have known : bucket.deadline now packet.bytes = .ok time :=
        Option.some.inj ((due_shaped TokenBucket.deadline now rfl rfl).symm.trans deadline)
      have exact_time := TokenBucket.deadline_iff positive updated small known after_now
      refine ⟨?_,TokenBucket.deadline_later known⟩
      rw [← exact_time]
      simp only [QosClass.eligible_head]
      cases (bucket.available later packet.bytes).1 <;> simp

theorem due_none {deadline : TokenBucket → SimTime → UInt64 → Except ScheduleError SimTime}
    (none_due : due deadline now c = none) : c.packets = [] := by
  unfold due at none_due
  cases packets : c.packets with
  | nil => rfl
  | cons packet rest =>
    rw [packets] at none_due
    cases none_due

end Classes

/-- The answer of `next_ready` is the least deadline, and the queues are empty when there is none. -/
theorem next_ready_due (s : QosScheduler T) (now : SimTime) {next : Option SimTime}
    (answer : (s.next_ready now).1 = .ok next) :
    (∀ c ∈ s.classes, ∀ answer, due TokenBucket.deadline now c = some answer →
        ∃ time first, answer = .ok time ∧ next = some first ∧ first ≤ time) ∧
      (next = none ∨ ∃ c ∈ s.classes, ∃ first, next = some first ∧ due TokenBucket.deadline now c = some (.ok first)) := by
  rw [QosScheduler.next_ready,QosScheduler.next_ready_from_eq] at answer
  have deadlines : ∀ (bucket : TokenBucket) bytes, (bucket.ready_at now bytes).1 = bucket.deadline now bytes := by
    intro bucket bytes
    simp only [TokenBucket.ready_at_eq]
  obtain ⟨each,origin,-⟩ := next_ready_with_due deadlines s.classes answer
  exact ⟨each,origin⟩

/-- From sound classes a packet departs exactly from the answer of `next_ready` on. -/
theorem departs_iff {s : QosScheduler T} {now first : SimTime} (sound : ∀ c ∈ s.classes, ∃ config, Sound config now c)
    (answer : (s.next_ready now).1 = .ok (some first)) :
    now ≤ first ∧ ∀ later, now ≤ later → ((s.dequeue_ready later).1.isSome ↔ first ≤ later) := by
  obtain ⟨each,origin⟩ := next_ready_due s now answer
  obtain ⟨earliest,member,found⟩ : ∃ c ∈ s.classes, due TokenBucket.deadline now c = some (.ok first) := by
    rcases origin with missing | ⟨c,member,other,same,found⟩
    · cases missing
    · cases same
      exact ⟨c,member,found⟩
  obtain ⟨config,holds⟩ := sound earliest member
  refine ⟨(eligible_due holds found le_rfl).2,?_⟩
  intro later passed
  rcases dequeue_outcome s later with ⟨result,idle⟩ | ⟨k,c,packet,packets,virtual,known,queued,available,-,result⟩
  · rw [result,← (eligible_due holds found passed).1,idle earliest member]
    simp
  · rw [result]
    simp only [Option.isSome_some,true_iff]
    have listed := List.mem_of_getElem? known
    obtain ⟨own,sound_class⟩ := sound c listed
    cases deadline : due TokenBucket.deadline now c with
    | none =>
      rw [due_none deadline] at queued
      cases queued
    | some answer =>
      obtain ⟨time,least,rfl,same,before⟩ := each c listed answer deadline
      cases same
      exact before.trans ((eligible_due sound_class deadline passed).1.mp (by rw [available]; rfl))

/-- What `next_ready` promises about the calls after it. -/
def Exact (s : QosScheduler T) (now : SimTime) : Prop :=
  match s.next_ready now with
  | (.ok (some first),next) =>
    now ≤ first ∧ ∀ later, now ≤ later → (next.dequeue_ready later).1.isSome = decide (first ≤ later)
  | (.ok none,next) => s.length = 0 ∧ next.length = 0
  | (.error _,_) => True

theorem next_ready_exact {configs : List QueueClassConfig} {now : SimTime} (formed : WellFormed configs s)
    (sound : ∀ c ∈ s.classes, ∃ config, Sound config now c) : Exact s now := by
  have settled : settle now (s.next_ready now).2 = settle now s :=
    congrArg (fun classes => { s with classes }) (looked_settles (next_ready_looked s now))
  have count : (s.next_ready now).2.length = s.length := rfl
  have answers := @next_ready_due T s now
  have departs := fun first => @departs_iff T s now first sound
  unfold Exact
  generalize s.next_ready now = asked at settled count answers departs ⊢
  obtain ⟨result,next⟩ := asked
  match result with
  | .error _ => trivial
  | .ok none =>
    have empty : s.length = 0 := by
      rw [formed_length formed]
      refine List.sum_eq_zero ?_
      intro n member
      obtain ⟨c,listed,rfl⟩ := List.mem_map.mp member
      cases deadline : due TokenBucket.deadline now c with
      | none => rw [due_none deadline,List.length_nil]
      | some answer =>
        obtain ⟨time,first,-,missing,-⟩ := (answers rfl).1 c listed answer deadline
        cases missing
    exact ⟨empty,count.trans empty⟩
  | .ok (some first) =>
    obtain ⟨future,exactly⟩ := departs first rfl
    refine ⟨future,?_⟩
    intro later passed
    have same := (call_same settled (.dequeue_ready later) passed).1
    rw [reply,reply,Reply.dequeued.injEq] at same
    rw [same,Bool.eq_iff_iff,decide_eq_true_eq]
    exact exactly later passed

/-! ### Windows -/

/-- The bytes that an event sends. -/
def departing : Event T → Nat
  | .transmitted _ bytes => bytes.toNat
  | _ => 0

/-- The bytes that an event accepts. -/
def arriving : Event T → Nat
  | .accepted _ bytes => bytes.toNat
  | _ => 0

/-- The bytes of the events in a window of time, both ends included. -/
def carried (bytes : Event T → Nat) (first last : SimTime) (events : List (SimTime × Event T)) : Nat :=
  (events.map (fun e => if first ≤ e.1 ∧ e.1 ≤ last then bytes e.2 else 0)).sum

/-- A bucket of every class pays for the bytes of every event. -/
def Metered (bucketOf : QosClass T → Option TokenBucket) (bytes : Event T → Nat) : Prop :=
  ∀ {now : SimTime} {e : Event T} {c next : QosClass T} {bucket : TokenBucket}, Moves now e c next →
    bucketOf c = some bucket →
    ∃ spent, bucketOf next = some spent ∧ spent.rate = bucket.rate ∧ bytes e * BYTE_CREDITS + spent.level now ≤
      bucket.level now

/-- Nothing is in a window that has passed. -/
theorem carried_passed (bytes : Event T → Nat) {k : Nat} {first last start : SimTime} (passed : last < start)
    (s : QosScheduler T) (calls : List (Call T)) (ordered : Ordered start calls) :
    carried bytes first last (events k s calls) = 0 := by
  induction calls generalizing s start with
  | nil => rfl
  | cons call rest ih =>
    obtain ⟨before,others⟩ := ordered.head
    have outside : ¬(first ≤ call.now ∧ call.now ≤ last) := fun inside => absurd (passed.trans_le before) (not_lt.mpr inside.2)
    have remaining := ih (passed.trans_le before) (after s call) others
    rw [carried] at remaining
    rw [carried,events,List.map_cons,List.sum_cons,if_neg outside,remaining]

/-- Inside a window a class carries at most the credit at its start and what the rate adds to it. -/
theorem carried_inside {bucketOf : QosClass T → Option TokenBucket} {bytes : Event T → Nat}
    (metered : Metered bucketOf bytes) {first last start : SimTime} (inside : first ≤ start)
    (open_window : start ≤ last) {k : Nat} {c : QosClass T} (found : s.classes[k]? = some c) {bucket : TokenBucket}
    (holds : bucketOf c = some bucket) (calls : List (Call T)) (ordered : Ordered start calls) :
    carried bytes first last (events k s calls) * BYTE_CREDITS ≤
      bucket.level start + bucket.rate.bits_per_second.toNat * (last.toNat - start.toNat) := by
  induction calls generalizing s c bucket start with
  | nil => simp [carried,events]
  | cons call rest ih =>
    obtain ⟨before,others⟩ := ordered.head
    by_cases within : call.now ≤ last
    · obtain ⟨next,there,moves⟩ := after_moves s call found
      obtain ⟨spent,left,same_rate,paid⟩ := metered moves holds
      have remaining := ih (inside.trans before) within there left others
      have grown := bucket.level_later before
      have order := UInt64.le_iff_toNat_le.mp before
      have ends := UInt64.le_iff_toNat_le.mp within
      have parts : bucket.rate.bits_per_second.toNat * (last.toNat - start.toNat) =
          bucket.rate.bits_per_second.toNat * (call.now.toNat - start.toNat) +
            bucket.rate.bits_per_second.toNat * (last.toNat - call.now.toNat) := by
        rw [← Nat.mul_add]
        congr 1
        omega
      rw [same_rate] at remaining
      rw [carried] at remaining
      rw [carried,events,List.map_cons,List.sum_cons,if_pos ⟨inside.trans before,within⟩,Nat.add_mul]
      dsimp only
      omega
    · have past := not_le.mp within
      have outside : ¬(first ≤ call.now ∧ call.now ≤ last) := fun both => within both.2
      have remaining := @carried_passed T bytes k first last call.now past (after s call) rest others
      rw [carried] at remaining
      rw [carried,events,List.map_cons,List.sum_cons,if_neg outside,remaining,Nat.add_zero,Nat.zero_mul]
      exact Nat.zero_le _

/-- Over any window a class carries at most the burst of its bucket and what the rate adds. -/
theorem carried_window {bucketOf : QosClass T → Option TokenBucket} {bytes : Event T → Nat}
    (metered : Metered bucketOf bytes) {first last start : SimTime} {k : Nat} {c : QosClass T}
    (found : s.classes[k]? = some c) {bucket : TokenBucket} (holds : bucketOf c = some bucket) (calls : List (Call T))
    (ordered : Ordered start calls) : carried bytes first last (events k s calls) * BYTE_CREDITS ≤
      bucket.depth + bucket.rate.bits_per_second.toNat * (last.toNat - first.toNat) := by
  induction calls generalizing s c bucket start with
  | nil => simp [carried,events]
  | cons call rest ih =>
    obtain ⟨-,others⟩ := ordered.head
    by_cases early : call.now < first
    · -- the window has not begun
      obtain ⟨next,there,moves⟩ := after_moves s call found
      obtain ⟨spent,left,same_rate,-⟩ := metered moves holds
      have remaining := ih there left others
      have outside : ¬(first ≤ call.now ∧ call.now ≤ last) := fun both => absurd early (not_lt.mpr both.1)
      rw [TokenBucket.depth,same_rate,carried] at remaining
      rw [carried,events,List.map_cons,List.sum_cons,if_neg outside,Nat.zero_add]
      exact remaining
    · have begun := not_lt.mp early
      have again : Ordered call.now (call :: rest) := by
        refine List.pairwise_cons.mpr ⟨?_,others⟩
        intro time member
        rcases List.mem_cons.mp member with rfl | later
        · exact le_rfl
        · exact (List.pairwise_cons.mp others).1 time later
      by_cases within : call.now ≤ last
      · have inside := carried_inside metered begun within found holds (call :: rest) again
        have depth := bucket.level_le_depth call.now
        have shorter : bucket.rate.bits_per_second.toNat * (last.toNat - call.now.toNat) ≤
            bucket.rate.bits_per_second.toNat * (last.toNat - first.toNat) :=
          Nat.mul_le_mul_left _ (Nat.sub_le_sub_left (UInt64.le_iff_toNat_le.mp begun) _)
        omega
      · rw [carried_passed bytes (not_le.mp within) s (call :: rest) again,Nat.zero_mul]
        exact Nat.zero_le _

theorem eligible_available {c : QosClass T} {now : SimTime} {packet : Queued T} {bucket : TokenBucket}
    (shaped : c.shape = some bucket) (eligible : (c.eligible_head now).1 = some packet) :
    (bucket.available now packet.bytes).1 = true := by
  have first := eligible_head_some eligible
  obtain ⟨config,priority,police,shape,packets,last,counters⟩ := c
  obtain rfl : shape = some bucket := shaped
  cases packets with
  | nil => cases first
  | cons head rest =>
    obtain rfl : head = packet := Option.some.inj first
    simp only [QosClass.eligible_head] at eligible
    cases enough : (bucket.available now head.bytes).1 with
    | true => rfl
    | false =>
      rw [enough] at eligible
      cases eligible

/-- A shaper pays for what its class sends. -/
theorem shape_metered : Metered (@QosClass.shape T) departing := by
  intro now e c next bucket moves holds
  cases moves with
  | rest c last looked =>
    cases looked with
    | kept => exact ⟨bucket,holds,rfl,by simp only [departing,Nat.zero_mul,Nat.zero_add,le_refl]⟩
    | refilled =>
      refine ⟨bucket.refill now,by simp only [holds,Option.map_some],(bucket.refill_frame now).1,?_⟩
      simp only [departing,Nat.zero_mul,Nat.zero_add,bucket.level_refill le_rfl,le_refl]
  | rejected c last reason bytes priority known strict =>
    refine ⟨bucket,(seen_frame _ now bytes priority _).2.1.trans holds,rfl,?_⟩
    simp only [departing,Nat.zero_mul,Nat.zero_add,le_refl]
  | accepted c packet bytes finish priority strict conforms short =>
    have kept := (seen_frame c now bytes priority none).2.1
    refine ⟨bucket,?_,rfl,?_⟩
    · simp only [queue,kept]
      exact holds
    · simp only [departing,Nat.zero_mul,Nat.zero_add,le_refl]
  | transmitted c packet packets queued available =>
    rw [transmit_looked (eligible_head_looked c now)]
    have charged := (transmit_frame c now packet packets).2.2.2
    refine ⟨(bucket.take now packet.bytes).2,?_,(bucket.take_frame now packet.bytes).1,?_⟩
    · rw [charged,holds,Option.map_some]
    · exact TokenBucket.take_spends (eligible_available holds available)
  | drained c => exact ⟨bucket,holds,rfl,by simp only [departing,Nat.zero_mul,Nat.zero_add,le_refl]⟩

/-- A policer pays for what its class accepts. -/
theorem police_metered : Metered (@QosClass.police T) arriving := by
  intro now e c next bucket moves holds
  cases moves with
  | rest c last looked =>
    refine ⟨bucket,looked.frame.2.2.2.1.trans holds,rfl,?_⟩
    simp only [arriving,Nat.zero_mul,Nat.zero_add,le_refl]
  | rejected c last reason bytes priority known strict =>
    have charged := (seen_frame { c with last_finish := last } now bytes priority (some reason)).2.2.2
    refine ⟨(bucket.take now bytes).2,?_,(bucket.take_frame now bytes).1,?_⟩
    · rw [charged]
      dsimp only
      rw [holds,Option.map_some]
    · simp only [arriving,Nat.zero_mul,Nat.zero_add]
      exact bucket.take_level_le now bytes
  | accepted c packet bytes finish priority strict conforms short =>
    have charged := (seen_frame c now bytes priority none).2.2.2
    have passed : (bucket.available now bytes).1 = true := by
      rw [holds,QosClass.refuses,TokenBucket.take_fst] at conforms
      simpa using conforms
    refine ⟨(bucket.take now bytes).2,?_,(bucket.take_frame now bytes).1,TokenBucket.take_spends passed⟩
    simp only [queue,charged]
    rw [holds,Option.map_some]
  | transmitted c packet packets queued available =>
    rw [transmit_looked (eligible_head_looked c now)]
    refine ⟨bucket,(transmit_frame c now packet packets).2.1.trans holds,rfl,?_⟩
    simp only [arriving,Nat.zero_mul,Nat.zero_add,le_refl]
  | drained c => exact ⟨bucket,holds,rfl,by simp only [arriving,Nat.zero_mul,Nat.zero_add,le_refl]⟩

/-! ### The whole scheduler -/

theorem Held.fresh {limit : Option RateLimit} (valid : ∀ rate ∈ limit, rate.valid = true) (start : SimTime) :
    Held start limit (limit.map (fun rate => TokenBucket.new rate start)) := by
  refine ⟨?_,?_⟩
  · rw [Option.map_map]
    exact Option.map_id'
  · intro b member
    obtain ⟨rate,known,rfl⟩ := Option.map_eq_some_iff.mp member
    have bounds := valid rate known
    simp only [RateLimit.valid,Bool.and_eq_true,decide_eq_true_eq] at bounds
    exact ⟨UInt64.le_iff_toNat_le.mp bounds.1.1,le_rfl⟩

/-- The classes of a new scheduler are sound. -/
theorem new_sound {configs : List QueueClassConfig} {capacity : Nat} {start : SimTime}
    (created : QosScheduler.new configs capacity start = .ok s) {k : Nat} {config : QueueClassConfig}
    (listed : configs[k]? = some config) :
    ∃ c, s.classes[k]? = some c ∧ Sound config start c ∧ c.shape = config.shape.map (fun rate => TokenBucket.new rate start) ∧
      c.police = config.police.map (fun rate => TokenBucket.new rate start) := by
  unfold QosScheduler.new at created
  split_ifs at created with invalid
  cases created
  have valid : ∀ rate, config.shape = some rate ∨ config.police = some rate → rate.valid = true := by
    intro rate limited
    by_contra refused
    refine invalid ?_
    rw [Bool.or_eq_true,List.any_eq_true]
    refine .inr ⟨config,List.mem_of_getElem? listed,?_⟩
    rw [Bool.or_eq_true,List.any_eq_true]
    refine .inr ⟨rate,?_,by simpa using refused⟩
    rw [List.reduceOption_mem_iff]
    rcases limited with shaped | policed
    · simp [shaped]
    · simp [policed]
  refine ⟨QosClass.new config start,by simp [listed],?_,rfl,rfl⟩
  exact ⟨rfl,Held.fresh (fun rate member => valid rate (.inl member)) start,
    Held.fresh (fun rate member => valid rate (.inr member)) start,by simp [QosClass.new]⟩

/-- Deadlines are exact and classes conform, from any new scheduler and over any calls in order of time:
    after the calls, packets depart exactly from the answer of `next_ready` on; over every window a shaped
    class sends, and a policed class accepts, at most its burst and what its rate adds; and additional
    polls change no reply and no counter. -/
theorem deadlines_exact {configs : List QueueClassConfig} {capacity : Nat} {start : SimTime} {s : QosScheduler T}
    (created : QosScheduler.new configs capacity start = .ok s) :
    (∀ calls now, Ordered start (calls ++ [.next_ready now]) → Exact (afterAll s calls) now) ∧
      (∀ k config, configs[k]? = some config → ∀ calls, Ordered start calls → ∀ first last : SimTime, first ≤ last →
        (∀ rate, config.shape = some rate → carried departing first last (events k s calls) * BYTE_CREDITS ≤
          rate.burst_bytes.toNat * BYTE_CREDITS + rate.bits_per_second.toNat * (last.toNat - first.toNat)) ∧
        (∀ rate, config.police = some rate → carried arriving first last (events k s calls) * BYTE_CREDITS ≤
          rate.burst_bytes.toNat * BYTE_CREDITS + rate.bits_per_second.toNat * (last.toNat - first.toNat))) ∧
      ∀ calls, Ordered start (calls.map (·.2)) → OnlyPolls s calls → kept s calls = replies s (requested calls) := by
  refine ⟨?_,?_,fun calls => kept_replies rfl calls⟩
  · intro calls now ordered
    have formed := (FairService.new_sound (L := 0) created).1.formed
    obtain ⟨end_formed,-⟩ := run_formed formed calls
    have along : Ordered start calls ∧ start ≤ now ∧ ∀ call ∈ calls, call.now ≤ now := by
      rw [Ordered,List.map_append,← List.cons_append,List.pairwise_append] at ordered
      obtain ⟨sorted,-,before⟩ := ordered
      refine ⟨sorted,before start (List.mem_cons_self ..) now (by simp [Call.now]),?_⟩
      intro call member
      exact before call.now (List.mem_cons_of_mem _ (List.mem_map_of_mem member)) now (by simp [Call.now])
    refine next_ready_exact end_formed ?_
    intro c member
    obtain ⟨k,found⟩ := List.mem_iff_getElem?.mp member
    -- the classes stay those of the configuration, in its order
    have counted : (afterAll s calls).classes.length = configs.length := by
      rw [← end_formed.configured,List.length_map,FairService.views,List.length_map]
    have inside : k < configs.length := counted ▸ (List.getElem?_eq_some_iff.mp found).1
    obtain ⟨first,there,sound,-⟩ := new_sound created (List.getElem?_eq_getElem inside)
    obtain ⟨last,end_there,holds⟩ := run_sound there sound calls along.1 along.2.1 along.2.2
    obtain rfl : last = c := Option.some.inj (end_there.symm.trans found)
    exact ⟨_,holds⟩
  · intro k config listed calls ordered first last _
    obtain ⟨c,found,-,shape,police⟩ := new_sound created listed
    constructor
    · intro rate limited
      rw [limited,Option.map_some] at shape
      exact carried_window shape_metered found shape calls ordered
    · intro rate limited
      rw [limited,Option.map_some] at police
      exact carried_window police_metered found police calls ordered

/-- A class of 8 kbit/s with a burst of 100 bytes. -/
def narrow : List QueueClassConfig := [⟨1,none,none,some ⟨8000,100⟩⟩]

def narrow_scheduler : QosScheduler String := ⟨narrow.map (fun config => QosClass.new config 0),10,0,0⟩

/-- The first frame leaves at once; the second waits until its 60 bytes are covered. -/
def two_frames : List (Call String) := [.enqueue 0 0 "first" 100 0,.enqueue 0 0 "second" 60 0,.dequeue_ready 0]

/-- A poll halfway, and the departure. -/
def polled_once : List (Bool × Call String) := two_frames.map (Prod.mk false) ++
    [(true,.dequeue_ready 30000),(false,.dequeue_ready 60000)]

theorem deadlines_exact_narrow :
    (∀ later, (((afterAll narrow_scheduler two_frames).next_ready 0).2.dequeue_ready later).1.isSome = decide (60000 ≤ later)) ∧
      carried departing 0 60000 (events 0 narrow_scheduler (two_frames ++ [.dequeue_ready 60000])) * BYTE_CREDITS ≤
        100 * BYTE_CREDITS + 8000 * 60000 ∧
      kept narrow_scheduler polled_once = replies narrow_scheduler (two_frames ++ [.dequeue_ready 60000]) := by
  obtain ⟨promised,windows,polls⟩ := deadlines_exact (show QosScheduler.new narrow 10 0 = .ok narrow_scheduler from rfl)
  refine ⟨?_,?_,?_⟩
  · have exactly := promised two_frames 0 (by unfold Ordered; decide +kernel)
    have answer : ((afterAll narrow_scheduler two_frames).next_ready 0).1 = .ok (some 60000) := by decide +kernel
    unfold Exact at exactly
    generalize (afterAll narrow_scheduler two_frames).next_ready 0 = asked at exactly answer ⊢
    obtain ⟨result,next⟩ := asked
    obtain rfl : result = .ok (some 60000) := answer
    exact fun later => exactly.2 later (UInt64.le_iff_toNat_le.mpr (Nat.zero_le _))
  · exact (windows 0 _ rfl _ (by unfold Ordered; decide +kernel) 0 60000 (by decide +kernel)).1 ⟨8000,100⟩ rfl
  · exact polls polled_once (by unfold Ordered; decide +kernel)
      ⟨nofun,nofun,nofun,fun _ => by unfold Polls; decide +kernel,nofun,trivial⟩

end Rios.QosDeadlines
