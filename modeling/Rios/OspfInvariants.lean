import Rios.OspfRestart

/-!
# What every exchange keeps

The invariants of an exchange over arbitrary runs, whatever a peer sends, and what
one call can do to an open request and to an unacknowledged update.
-/

namespace Rios.Ospf
open Rios.Machine Rios.Device Rios.Queue
variable {L : Type} [ExchangeAdvertisement L]

namespace OspfExchange

/-! ### The invariants -/

/-- The bounds and the states of an exchange between two calls, but for the requests of Loading. -/
structure Bounded (x : OspfExchange L) : Prop where
  full : x.state = .Full → x.requests = ∅
  starting : x.state = .ExStart → x.requests = ∅ ∧ x.retransmit = ∅
  offset : x.offset ≤ x.summary.length
  summary : x.summary.length ≤ OSPF_DATABASE_LIMIT
  requests : x.requests.size ≤ OSPF_DATABASE_LIMIT
  retransmit : x.retransmit.size ≤ OSPF_DATABASE_LIMIT
  request_keys : ∀ k h, x.requests.get? k = some h → header_key h = k
  update_keys : ∀ k sent, x.retransmit.get? k = some sent → key sent.1 = k

/-- The invariants of an exchange. -/
structure Kept (x : OspfExchange L) : Prop extends Bounded x where
  loading : x.state = .Loading → x.requests ≠ ∅

/-- A later header that is newer, or newer than one that is. -/
def Newer (later h : Header L) : Prop :=
  Relation.TransGen (fun old new => ExchangeAdvertisement.compare new old = .gt) h later

/-- A body that acknowledges exactly an update. -/
def Acknowledges (body : OspfBody L) (lsa : L) : Prop :=
  ∃ headers h sent, body = .LinkStateAck headers ∧ h ∈ headers ∧ header_key h = key lsa ∧ header lsa = .ok sent ∧
    ExchangeAdvertisement.compare h sent = .eq

/-- An exchange that has just been started over. -/
def Restarted (y : OspfExchange L) : Prop := ∃ (x : OspfExchange L) (database : Database L) (now : SimTime),
  y = (x.start database now).1

/-- What happens to an update that waits for its acknowledgment. -/
inductive Update (operation : Operation L) (y : OspfExchange L) (lsa : L) : Prop where
  | waits (due : SimTime) (same : y.retransmit.get? (key lsa) = some (lsa,due))
  | replaced (other : L × SimTime) (found : y.retransmit.get? (key lsa) = some other) (same : key other.1 = key lsa)
  | acknowledged (body : OspfBody L) (database : Database L) (now : SimTime)
      (received : operation = .receive body database now) (clears : Acknowledges body lsa)
  | restarted (again : Restarted y)

/-- What one call does to the requests and the updates of an exchange. -/
structure Progress (x : OspfExchange L) (operation : Operation L) (y : OspfExchange L) : Prop where
  requests : ∀ k old new, x.requests.get? k = some old → y.requests.get? k = some new → new = old ∨ Newer new old
  retransmit : ∀ k sent, x.retransmit.get? k = some sent → Update operation y sent.1

variable {x y : OspfExchange L}

theorem Kept.of_bounded (bounded : x.Bounded) (other : x.state ≠ .Loading) : x.Kept :=
  ⟨bounded,fun loading => absurd loading other⟩

theorem bounded_start (self : OspfExchange L) (database : Database L) (now : SimTime) :
    (self.start database now).1.Bounded where
  full := fun wrong => absurd wrong (by rw [start_state]; decide)
  starting := fun _ => ⟨rfl,rfl⟩
  offset := Nat.zero_le _
  summary := List.length_take_le ..
  requests := Nat.zero_le _
  retransmit := Nat.zero_le _
  request_keys := fun k h found => by cases found
  update_keys := fun k sent found => by cases found

theorem kept_start (self : OspfExchange L) (database : Database L) (now : SimTime) : (self.start database now).1.Kept :=
  .of_bounded (bounded_start self database now) (by rw [start_state]; decide)

theorem restarted_restart (self : OspfExchange L) (database : Database L) (now : SimTime) :
    Restarted (self.restart database now).1 := ⟨_,database,now,rfl⟩

/-! ### Flooding -/

theorem flood_cases (self : OspfExchange L) (lsa : L) (now : SimTime) :
    (self.flood lsa now).1 = self ∨ self.can_exchange = true ∧
      (self.retransmit.size < OSPF_DATABASE_LIMIT ∨ self.retransmit.contains (key lsa) = true) ∧
      (self.flood lsa now).1 = { self with retransmit := self.retransmit.insert (key lsa) (lsa,retransmit_at now) } := by
  unfold flood
  split
  · exact .inl rfl
  · rename_i able
    cases encoded_len lsa with
    | error _ => exact .inl rfl
    | ok len =>
      dsimp only
      split
      · exact .inl rfl
      · rename_i room
        refine .inr ⟨by simpa using able,?_,rfl⟩
        simp only [not_or,not_and] at room
        by_cases full : OSPF_DATABASE_LIMIT ≤ self.retransmit.size
        · exact .inr (by simpa using room.2 full)
        · exact .inl (not_le.mp full)

theorem flood_state (self : OspfExchange L) (lsa : L) (now : SimTime) :
    (self.flood lsa now).1.state = self.state ∧ (self.flood lsa now).1.requests = self.requests := by
  rcases flood_cases self lsa now with same | ⟨-,-,sent⟩
  · rw [same]
    exact ⟨rfl,rfl⟩
  · rw [sent]
    exact ⟨rfl,rfl⟩

theorem Bounded.flood (bounded : x.Bounded) (lsa : L) (now : SimTime) : (x.flood lsa now).1.Bounded := by
  rcases flood_cases x lsa now with same | ⟨able,room,sent⟩
  · rw [same]
    exact bounded
  · rw [sent]
    refine { bounded with starting := ?_, retransmit := ?_, update_keys := ?_ }
    · intro starting
      exact absurd starting (state_ne_exStart able)
    · rcases room with room | known
      · exact (OrderedMap.size_insert_le _ _ _).trans room
      · exact (OrderedMap.size_insert_of_contains known _).trans bounded.retransmit
    · intro k found there
      dsimp only at there
      rw [OrderedMap.get?_insert] at there
      by_cases same : k = key lsa
      · rw [if_pos same] at there
        cases there
        exact same.symm
      · rw [if_neg same] at there
        exact bounded.update_keys k found there

/-- Flooding replaces an update or leaves it. -/
theorem update_flood {k : Key L} {sent : L × SimTime} (there : x.retransmit.get? k = some sent)
    (lsa : L) (now : SimTime) :
    (x.flood lsa now).1.retransmit.get? k = some sent ∨
      ∃ due, k = key lsa ∧ (x.flood lsa now).1.retransmit.get? k = some (lsa,due) := by
  rcases flood_cases x lsa now with same | ⟨-,-,after⟩
  · rw [same]
    exact .inl there
  · rw [after]
    dsimp only
    rw [OrderedMap.get?_insert]
    by_cases same : k = key lsa
    · exact .inr ⟨_,same,by rw [if_pos same]⟩
    · exact .inl (by rw [if_neg same,there])

/-! ### Requests of the peer -/

theorem update_of_flood {operation : Operation L} {sent : L × SimTime} {k : Key L} (own : key sent.1 = k)
    (again : Restarted y ∨ ∃ other, y.retransmit.get? k = some other ∧ key other.1 = k) : Update operation y sent.1 := by
  subst own
  rcases again with again | ⟨other,found,same⟩
  · exact .restarted again
  · exact .replaced other found same

/-- Answers to requests are floods, up to a restart. -/
theorem receive_request_kept (database : Database L) (now : SimTime) (keys : List (Key L)) :
    ∀ (x : OspfExchange L) (packets : List (OspfBody L)), x.Bounded →
      (receive_request database now x packets keys).1.Bounded ∧
      (Restarted (receive_request database now x packets keys).1 ∨
        (receive_request database now x packets keys).1.state = x.state ∧
        (receive_request database now x packets keys).1.requests = x.requests ∧
        ∀ k sent, x.retransmit.get? k = some sent →
          ∃ other, (receive_request database now x packets keys).1.retransmit.get? k = some other ∧ key other.1 = k) := by
  induction keys with
  | nil =>
    intro x packets bounded
    exact ⟨bounded,.inr ⟨rfl,rfl,fun k sent there => ⟨sent,there,bounded.update_keys k sent there⟩⟩⟩
  | cons wanted rest ih =>
    intro x packets bounded
    unfold receive_request
    cases database.get? wanted with
    | none => exact ⟨bounded_start _ database now,.inl (restarted_restart x database now)⟩
    | some lsa =>
      dsimp only
      obtain ⟨after,again | ⟨state,requests,updates⟩⟩ := ih _ (packets ++ (x.flood lsa now).2.toList) (bounded.flood lsa now)
      · exact ⟨after,.inl again⟩
      · obtain ⟨same,open_⟩ := flood_state x lsa now
        refine ⟨after,.inr ⟨state.trans same,requests.trans open_,?_⟩⟩
        intro k sent there
        rcases update_flood there lsa now with still | ⟨due,-,newer⟩
        · exact updates k sent still
        · exact updates k (lsa,due) newer

/-! ### Updates of the peer -/

/-- An advertisement of an update clears requests and may flood what the database has. -/
structure Cleared (x y : OspfExchange L) : Prop where
  bounded : x.Bounded → y.Bounded
  state : y.state = x.state
  requests : ∀ k h, y.requests.get? k = some h → x.requests.get? k = some h
  retransmit : x.Bounded → ∀ k sent, x.retransmit.get? k = some sent →
    ∃ other, y.retransmit.get? k = some other ∧ key other.1 = k

theorem Cleared.refl (x : OspfExchange L) : Cleared x x where
  bounded := id
  state := rfl
  requests _ _ found := found
  retransmit bounded k sent there := ⟨sent,there,bounded.update_keys k sent there⟩

theorem Cleared.trans {z : OspfExchange L} (first : Cleared x y) (second : Cleared y z) : Cleared x z where
  bounded bounded := second.bounded (first.bounded bounded)
  state := second.state.trans first.state
  requests k h found := first.requests k h (second.requests k h found)
  retransmit bounded k sent there := by
    obtain ⟨other,found,-⟩ := first.retransmit bounded k sent there
    exact second.retransmit (first.bounded bounded) k other found

theorem cleared_flood (x : OspfExchange L) (lsa : L) (now : SimTime) : Cleared x (x.flood lsa now).1 where
  bounded bounded := bounded.flood lsa now
  state := (flood_state x lsa now).1
  requests k h found := by rwa [(flood_state x lsa now).2] at found
  retransmit bounded k sent there := by
    rcases update_flood there lsa now with still | ⟨due,rfl,newer⟩
    · exact ⟨sent,still,bounded.update_keys k sent there⟩
    · exact ⟨_,newer,rfl⟩

theorem cleared_erase (x : OspfExchange L) (k : Key L) : Cleared x { x with requests := x.requests.erase k } where
  bounded bounded := by
    have none : x.requests = ∅ → x.requests.erase k = ∅ := by
      intro empty
      rw [empty]
      rfl
    exact { bounded with
      full := fun full => none (bounded.full full)
      starting := fun starting => ⟨none (bounded.starting starting).1,(bounded.starting starting).2⟩
      requests := (OrderedMap.size_erase_le _ _).trans bounded.requests
      request_keys := fun key h found => bounded.request_keys key h (OrderedMap.get?_erase_some found) }
  state := rfl
  requests _ _ found := OrderedMap.get?_erase_some found
  retransmit bounded k sent there := ⟨sent,there,bounded.update_keys k sent there⟩

theorem cleared_update_lsa (database : Database L) (now : SimTime) (s : Updating L) (lsa : L) :
    Cleared s.exchange (update_lsa database now s lsa).exchange := by
  obtain ⟨after,erased,outcome⟩ := update_lsa_cases database now s lsa
  have cleared : Cleared s.exchange after := by
    rcases erased with rfl | ⟨key,rfl⟩
    · exact .refl _
    · exact cleared_erase _ key
  rcases outcome with ⟨kept,-⟩ | ⟨old,flooded,-⟩
  · rwa [kept]
  · rw [flooded]
    exact cleared.trans (cleared_flood after old now)

theorem cleared_updates (database : Database L) (now : SimTime) (lsas : List L) (s : Updating L) :
    Cleared s.exchange (lsas.foldl (update_lsa database now) s).exchange := by
  induction lsas generalizing s with
  | nil => exact .refl _
  | cons lsa lsas ih => exact (cleared_update_lsa database now s lsa).trans (ih _)

/-- Loading ends with the last request. -/
theorem kept_settle (bounded : x.Bounded) :
    (if x.state = .Loading ∧ x.requests.isEmpty = true then { x with state := .Full } else x).Kept := by
  by_cases done : x.state = .Loading ∧ x.requests.isEmpty = true
  · rw [if_pos done]
    have none := (OrderedMap.isEmpty_iff _).mp done.2
    exact .of_bounded { bounded with
      full := fun _ => none
      starting := fun wrong => nomatch wrong } (fun wrong => nomatch wrong)
  · rw [if_neg done]
    refine ⟨bounded,?_⟩
    intro loading none
    exact done ⟨loading,(OrderedMap.isEmpty_iff _).mpr none⟩

/-! ### Acknowledgments of the peer -/

theorem ack_header_some {retransmit : OrderedMap (Key L) (L × SimTime)} {h : Header L} {k : Key L} {sent : L × SimTime}
    (still : (ack_header retransmit h).get? k = some sent) : retransmit.get? k = some sent := by
  unfold ack_header at still
  split at still
  · exact OrderedMap.get?_erase_some still
  · exact still

theorem ack_header_none {retransmit : OrderedMap (Key L) (L × SimTime)} {h : Header L} {k : Key L} {sent : L × SimTime}
    (there : retransmit.get? k = some sent) (gone : (ack_header retransmit h).get? k = none) :
    header_key h = k ∧ ∃ own, header sent.1 = .ok own ∧ ExchangeAdvertisement.compare h own = .eq := by
  unfold ack_header at gone
  split at gone
  · rename_i equal
    rw [OrderedMap.get?_erase] at gone
    split_ifs at gone with same
    · subst same
      rw [there,Option.bind_some] at equal
      refine ⟨rfl,?_⟩
      cases own : header sent.1 with
      | error _ => rw [own] at equal; cases equal
      | ok mine => rw [own] at equal; exact ⟨mine,rfl,by simpa [Except.toOption] using equal⟩
    · rw [there] at gone
      cases gone
  · rw [there] at gone
    cases gone

theorem ack_headers (headers : List (Header L)) (retransmit : OrderedMap (Key L) (L × SimTime)) :
    (headers.foldl ack_header retransmit).size ≤ retransmit.size ∧
    (∀ k sent, (headers.foldl ack_header retransmit).get? k = some sent → retransmit.get? k = some sent) ∧
    ∀ k sent, retransmit.get? k = some sent → (headers.foldl ack_header retransmit).get? k = some sent ∨
      ∃ h ∈ headers, header_key h = k ∧ ∃ own, header sent.1 = .ok own ∧ ExchangeAdvertisement.compare h own = .eq := by
  induction headers generalizing retransmit with
  | nil => exact ⟨le_rfl,fun _ _ found => found,fun _ _ found => .inl found⟩
  | cons h headers ih =>
    obtain ⟨size,back,forth⟩ := ih (ack_header retransmit h)
    have shorter : (ack_header retransmit h).size ≤ retransmit.size := by
      unfold ack_header
      split
      · exact OrderedMap.size_erase_le _ _
      · exact le_rfl
    refine ⟨size.trans shorter,fun k sent found => ack_header_some (back k sent found),?_⟩
    intro k sent there
    cases next : (ack_header retransmit h).get? k with
    | none =>
      obtain ⟨same,own⟩ := ack_header_none there next
      exact .inr ⟨h,List.mem_cons_self,same,own⟩
    | some kept =>
      obtain rfl : sent = kept := Option.some.inj (there.symm.trans (ack_header_some next))
      rcases forth k sent next with still | ⟨other,member,cleared⟩
      · exact .inl still
      · exact .inr ⟨other,List.mem_cons_of_mem _ member,cleared⟩

/-! ### Descriptions of the peer -/

theorem request_header_cases (database : Database L) (requests : OrderedMap (Key L) (Header L)) (h : Header L) :
    request_header database requests h = requests ∨ request_header database requests h = requests.insert (header_key h) h ∧
      (requests.size < OSPF_DATABASE_LIMIT ∨ requests.contains (header_key h) = true) ∧
      ∀ old, requests.get? (header_key h) = some old → ExchangeAdvertisement.compare h old = .gt := by
  unfold request_header
  split
  · rename_i open_
    cases found : requests.get? (header_key h) with
    | none =>
      refine .inr ⟨rfl,open_.2,?_⟩
      intro old equal
      cases equal
    | some old =>
      dsimp only
      split
      · rename_i newer
        refine .inr ⟨rfl,open_.2,?_⟩
        intro other equal
        rwa [Option.some.inj equal] at newer
      · exact .inl rfl
  · exact .inl rfl

/-- Requests stay below the limit, under their keys, and are only replaced by newer ones. -/
theorem request_headers_kept (database : Database L) (headers : List (Header L)) (requests : OrderedMap (Key L) (Header L))
    (bounded : requests.size ≤ OSPF_DATABASE_LIMIT) (keyed : ∀ k h, requests.get? k = some h → header_key h = k) :
    (headers.foldl (request_header database) requests).size ≤ OSPF_DATABASE_LIMIT ∧
    (∀ k h, (headers.foldl (request_header database) requests).get? k = some h → header_key h = k) ∧
    ∀ k old new, requests.get? k = some old → (headers.foldl (request_header database) requests).get? k = some new →
      new = old ∨ Newer new old := by
  induction headers generalizing requests with
  | nil => exact ⟨bounded,keyed,fun k old new before after => .inl (Option.some.inj (after.symm.trans before))⟩
  | cons h headers ih =>
    rcases request_header_cases database requests h with same | ⟨replaced,room,newer⟩
    · rw [List.foldl_cons,same]
      exact ih requests bounded keyed
    · rw [List.foldl_cons,replaced]
      have size : (requests.insert (header_key h) h).size ≤ OSPF_DATABASE_LIMIT := by
        rcases room with room | known
        · exact (OrderedMap.size_insert_le _ _ _).trans room
        · exact (OrderedMap.size_insert_of_contains known _).trans bounded
      have keys : ∀ k found, (requests.insert (header_key h) h).get? k = some found → header_key found = k := by
        intro k found there
        rw [OrderedMap.get?_insert] at there
        split_ifs at there with same
        · cases there
          exact same.symm
        · exact keyed k found there
      obtain ⟨small,kept,later⟩ := ih _ size keys
      refine ⟨small,kept,?_⟩
      intro k old new before after
      by_cases same : k = header_key h
      · subst same
        have step : Relation.TransGen (fun old new => ExchangeAdvertisement.compare new old = .gt) old h :=
          .single (newer old before)
        rcases later _ h new (OrderedMap.get?_insert_self _ _ _) after with rfl | newest
        · exact .inr step
        · exact .inr (step.trans newest)
      · exact later k old new (by rw [OrderedMap.get?_insert,if_neg same,before]) after

/-- What a description leaves of the requests and updates: all of them, unless it starts over. -/
structure Heard (x y : OspfExchange L) : Prop where
  kept : y.Kept
  requests : ∀ k old new, x.requests.get? k = some old → y.requests.get? k = some new → new = old ∨ Newer new old
  retransmit : Restarted y ∨ y.retransmit = x.retransmit

theorem Bounded.with_state (bounded : x.Bounded) (state : OspfNeighborState) (full : state ≠ .Full)
    (starting : state ≠ .ExStart) : Bounded { x with state := state } :=
  { bounded with
    full := fun wrong => absurd wrong full
    starting := fun wrong => absurd wrong starting }

theorem Bounded.request_headers (bounded : x.Bounded) (full : x.state ≠ .Full) (starting : x.state ≠ .ExStart)
    (headers : List (Header L)) (database : Database L) : (x.request_headers headers database).Bounded := by
  obtain ⟨size,keyed,-⟩ := request_headers_kept database headers x.requests bounded.requests bounded.request_keys
  exact { bounded with
    full := fun wrong => absurd wrong full
    starting := fun wrong => absurd wrong starting
    requests := size
    request_keys := keyed }

theorem offset_le_page_end (bounded : x.Bounded) : x.offset ≤ x.page_end :=
  le_min (Nat.le_add_right _ _) bounded.offset

theorem page_end_le (x : OspfExchange L) : x.page_end ≤ x.summary.length := min_le_right _ _

theorem Bounded.next_dd (bounded : x.Bounded) (now : SimTime) : (x.next_dd now).1.Bounded :=
  { bounded with offset := page_end_le x }

theorem kept_finish (bounded : x.Bounded) (now : SimTime) : (x.finish now).1.Kept := by
  unfold finish
  split
  · rename_i none
    exact .of_bounded { bounded with
      full := fun _ => (OrderedMap.isEmpty_iff _).mp none
      starting := fun wrong => nomatch wrong } (fun wrong => nomatch wrong)
  · rename_i some_
    refine ⟨{ bounded with
      full := fun wrong => nomatch wrong
      starting := fun wrong => nomatch wrong },?_⟩
    intro _ none
    exact some_ ((OrderedMap.isEmpty_iff _).mpr none)

theorem finish_requests (x : OspfExchange L) (now : SimTime) :
    (x.finish now).1.requests = x.requests ∧ (x.finish now).1.retransmit = x.retransmit := by
  unfold finish
  split <;> exact ⟨rfl,rfl⟩

theorem Heard.refl (kept : x.Kept) : Heard x x :=
  ⟨kept,fun _ _ _ before after => .inl (Option.some.inj (after.symm.trans before)),.inr rfl⟩

theorem heard_take_page (kept : x.Kept) (exchanging : x.state = .Exchange) (flags : UInt8) (sequence : UInt32)
    (headers : List (Header L)) (database : Database L) (now : SimTime) :
    Heard x (x.take_page flags sequence headers database now).1 := by
  have bounded : (x.request_headers headers database).Bounded :=
    kept.toBounded.request_headers (by rw [exchanging]; decide) (by rw [exchanging]; decide) headers database
  have state : (x.request_headers headers database).state = .Exchange := exchanging
  obtain ⟨-,-,newer⟩ := request_headers_kept database headers x.requests kept.requests kept.request_keys
  have still : (x.request_headers headers database).retransmit = x.retransmit := rfl
  have open_ : (x.request_headers headers database).requests = headers.foldl (request_header database) x.requests := rfl
  rw [← open_] at newer
  unfold take_page
  dsimp only
  generalize x.request_headers headers database = heard at bounded state newer still
  have paged : ∀ number, Heard x (next_dd { heard with sequence := number } now).1 := by
    intro number
    have page : Bounded { heard with sequence := number } := { bounded with }
    exact ⟨.of_bounded (page.next_dd now) (fun wrong => by rw [show _ = heard.state from rfl,state] at wrong; cases wrong),
      newer,.inr still⟩
  have finished : ∀ done : OspfExchange L, done.Bounded → done.requests = heard.requests →
      done.retransmit = heard.retransmit → Heard x (done.finish now).1 := by
    intro done isBounded requests retransmit
    obtain ⟨same,kept_⟩ := finish_requests done now
    refine ⟨kept_finish isBounded now,?_,.inr (kept_.trans (retransmit.trans still))⟩
    rw [same,requests]
    exact newer
  split
  · split
    · exact finished heard bounded rfl rfl
    · exact paged _
  · split
    · have page : Bounded { heard with sequence := sequence } := { bounded with }
      exact finished _ (page.next_dd now) rfl rfl
    · exact paged _

theorem heard_negotiate (kept : x.Kept) (starting : x.state = .ExStart) (flags : UInt8) (sequence : UInt32)
    (headers : List (Header L)) (database : Database L) (now : SimTime) :
    Heard x (x.negotiate flags sequence headers database now).1 := by
  have none := (kept.starting starting).1
  have nothing : ∀ (y : OspfExchange L) k old new, x.requests.get? k = some old → y.requests.get? k = some new →
      new = old ∨ Newer new old := by
    intro y k old new before
    rw [none] at before
    cases before
  unfold negotiate
  split
  · have exchanging := kept.toBounded.with_state .Exchange (by decide) (by decide)
    have page : Bounded { x with sequence := sequence, state := .Exchange } := { exchanging with }
    exact ⟨.of_bounded (page.next_dd now) (fun wrong => nomatch wrong),nothing _,.inr rfl⟩
  · split
    · have exchanging := kept.toBounded.with_state .Exchange (by decide) (by decide)
      have heard := exchanging.request_headers (by intro wrong; cases wrong) (by intro wrong; cases wrong) headers database
      have page : Bounded { (request_headers { x with state := .Exchange } headers database) with
        sequence := x.sequence + 1 } := { heard with }
      exact ⟨.of_bounded (page.next_dd now) (fun wrong => nomatch wrong),nothing _,.inr rfl⟩
    · exact .refl kept

theorem heard_dd (kept : x.Kept) (mtu : UInt16) (options : UInt32) (flags : UInt8) (sequence : UInt32)
    (headers : List (Header L)) (database : Database L) (now : SimTime) :
    Heard x (x.receive_dd mtu options flags sequence headers database now).1 := by
  unfold receive_dd
  split
  · exact .refl kept
  · split
    · rename_i starting
      exact heard_negotiate kept starting flags sequence headers database now
    · split
      · exact .refl kept
      · split
        · exact .refl kept
        · split
          · exact .refl kept
          · split
            · exact .refl kept
            · split
              · refine ⟨kept_start _ database now,?_,.inl (restarted_restart x database now)⟩
                intro k old new _ after
                cases after
              · rename_i turn
                have exchanging : x.state = .Exchange := by
                  by_contra other
                  exact turn (.inr (.inr (.inr other)))
                exact heard_take_page kept exchanging flags sequence headers database now

/-! ### Timers -/

theorem tick_dd_shape (x : OspfExchange L) (now : SimTime) : ∃ due, (x.tick_dd now).1 = { x with dd_due := due } := by
  unfold tick_dd
  cases last : x.last_dd with
  | none =>
    dsimp only
    exact ⟨x.dd_due,by rw [← last]⟩
  | some body =>
    dsimp only
    by_cases due : x.dd_timer = true ∧ x.dd_due ≤ now
    · exact ⟨retransmit_at now,by rw [if_pos due]⟩
    · exact ⟨x.dd_due,by rw [if_neg due,← last]⟩

theorem tick_requests_shape (x : OspfExchange L) (now : SimTime) :
    ∃ due, (x.tick_requests now).1 = { x with request_due := due } := by
  unfold tick_requests
  by_cases due : x.state = .Loading ∧ x.request_due ≤ now
  · exact ⟨retransmit_at now,by rw [if_pos due]⟩
  · exact ⟨x.request_due,by rw [if_neg due]⟩

/-- A tick only moves deadlines. -/
theorem tick_shape (x : OspfExchange L) (now : SimTime) : ∃ dd_due request_due, (x.tick now).1 =
    { x with
      dd_due := dd_due,
      request_due := request_due,
      retransmit := x.retransmit.mapValues (fun _ sent => if sent.2 ≤ now then (sent.1,retransmit_at now) else sent) } := by
  obtain ⟨dd_due,first⟩ := tick_dd_shape x now
  obtain ⟨request_due,second⟩ := tick_requests_shape (x.tick_dd now).1 now
  refine ⟨dd_due,request_due,?_⟩
  rw [tick]
  dsimp only
  rw [tick_updates]
  dsimp only
  rw [second,first]

theorem kept_tick (kept : x.Kept) (now : SimTime) : (x.tick now).1.Kept := by
  obtain ⟨dd_due,request_due,after⟩ := tick_shape x now
  rw [after]
  refine ⟨{ kept.toBounded with starting := ?_, retransmit := ?_, update_keys := ?_ },kept.loading⟩
  · intro starting
    obtain ⟨none,quiet⟩ := kept.starting starting
    exact ⟨none,by dsimp only; rw [quiet]; rfl⟩
  · dsimp only
    rw [OrderedMap.size_mapValues]
    exact kept.retransmit
  · intro k sent found
    dsimp only at found
    rw [OrderedMap.get?_mapValues] at found
    obtain ⟨before,there,rfl⟩ := Option.map_eq_some_iff.mp found
    have own := kept.update_keys k before there
    by_cases due : before.2 ≤ now
    · rw [if_pos due]
      exact own
    · rw [if_neg due]
      exact own

/-! ### Runs -/

theorem kept_new (here peer : Ipv4Addr) (mtu : UInt16) (sequence : UInt32) :
    (new here peer mtu sequence : OspfExchange L).Kept := by
  refine .of_bounded ⟨?_,?_,?_,?_,?_,?_,?_,?_⟩ (by intro wrong; cases wrong)
  · intro wrong
    cases wrong
  · exact fun _ => ⟨rfl,rfl⟩
  · exact Nat.zero_le _
  · exact Nat.zero_le _
  · exact Nat.zero_le _
  · exact Nat.zero_le _
  · intro k h found
    cases found
  · intro k sent found
    cases found

theorem same_requests {k : Key L} {old new : Header L} (same : y.requests = x.requests)
    (before : x.requests.get? k = some old) (after : y.requests.get? k = some new) : new = old ∨ Newer new old := by
  rw [same,before] at after
  exact .inl (Option.some.inj after).symm

theorem Progress.of_same (kept : x.Kept) (operation : Operation L) (requests : y.requests = x.requests)
    (retransmit : y.retransmit = x.retransmit) : Progress x operation y where
  requests _ _ _ before after := same_requests requests before after
  retransmit k sent there := by
    have own := kept.update_keys k sent there
    subst own
    exact .waits sent.2 (by rw [retransmit,there])

/-- What a packet of the peer does. -/
theorem receive_progress (kept : x.Kept) (body : OspfBody L) (database : Database L) (now : SimTime) :
    (x.receive body database now).1.Kept ∧
      Progress x (.receive body database now) (x.receive body database now).1 := by
  cases body with
  | Hello _ => exact ⟨kept,.of_same kept _ rfl rfl⟩
  | DatabaseDescription mtu options flags sequence headers =>
    have heard := heard_dd kept mtu options flags sequence headers database now
    refine ⟨heard.kept,heard.requests,?_⟩
    intro k sent there
    have own := kept.update_keys k sent there
    rcases heard.retransmit with again | same
    · exact .restarted again
    · refine .waits sent.2 ?_
      subst own
      rw [← there]
      exact congrArg (fun map => OrderedMap.get? map (key sent.1)) same
  | LinkStateRequest keys =>
    unfold receive
    dsimp only
    split
    · obtain ⟨bounded,course⟩ := receive_request_kept database now keys x [] kept.toBounded
      generalize (receive_request database now x [] keys).1 = y at bounded course
      rcases course with again | ⟨state,requests,updates⟩
      · obtain ⟨z,other,time,rfl⟩ := again
        refine ⟨kept_start z other time,?_,?_⟩
        · intro k old new _ after
          cases after
        · intro k sent _
          exact .restarted ⟨z,other,time,rfl⟩
      · refine ⟨⟨bounded,?_⟩,?_,?_⟩
        · rw [state,requests]
          exact kept.loading
        · intro k old new before after
          exact same_requests requests before after
        · intro k sent there
          exact update_of_flood (kept.update_keys k sent there) (.inr (updates k sent there))
    · exact ⟨kept,.of_same kept _ rfl rfl⟩
  | LinkStateUpdate lsas =>
    unfold receive
    dsimp only
    split
    · unfold receive_update
      dsimp only
      have cleared := cleared_updates database now lsas ⟨x,[],[],[]⟩
      dsimp only at cleared
      generalize (lsas.foldl (update_lsa database now) ⟨x,[],[],[]⟩).exchange = y at cleared
      have settled := kept_settle (cleared.bounded kept.toBounded)
      have same : (if y.state = .Loading ∧ y.requests.isEmpty = true then { y with state := .Full } else y).requests =
        y.requests ∧
          (if y.state = .Loading ∧ y.requests.isEmpty = true then { y with state := .Full } else y).retransmit =
            y.retransmit := by
        split <;> exact ⟨rfl,rfl⟩
      refine ⟨settled,?_,?_⟩
      · intro k old new before after
        rw [same.1] at after
        have still := cleared.requests k new after
        rw [before] at still
        exact .inl (Option.some.inj still).symm
      · intro k sent there
        refine update_of_flood (kept.update_keys k sent there) (.inr ?_)
        rw [same.2]
        exact cleared.retransmit kept.toBounded k sent there
    · exact ⟨kept,.of_same kept _ rfl rfl⟩
  | LinkStateAck headers =>
    unfold receive
    dsimp only
    split
    · obtain ⟨size,back,forth⟩ := ack_headers headers x.retransmit
      refine ⟨⟨{ kept.toBounded with starting := ?_, retransmit := ?_, update_keys := ?_ },kept.loading⟩,?_,?_⟩
      · rename_i able
        intro starting
        exact absurd starting (state_ne_exStart able)
      · exact size.trans kept.retransmit
      · intro k sent found
        exact kept.update_keys k sent (back k sent found)
      · intro k old new before after
        exact same_requests rfl before after
      · intro k sent there
        have own := kept.update_keys k sent there
        subst own
        rcases forth _ sent there with still | ⟨h,member,same,mine,read,equal⟩
        · exact .waits sent.2 still
        · exact .acknowledged _ database now rfl ⟨headers,h,mine,rfl,member,same,read,equal⟩
    · exact ⟨kept,.of_same kept _ rfl rfl⟩

theorem perform_progress (kept : x.Kept) (operation : Operation L) :
    (x.perform operation).Kept ∧ Progress x operation (x.perform operation) := by
  cases operation with
  | start database now =>
    refine ⟨kept_start x database now,?_,?_⟩
    · intro k old new _ after
      cases after
    · intro k sent _
      exact .restarted ⟨x,database,now,rfl⟩
  | flood lsa now =>
    have cleared := cleared_flood x lsa now
    obtain ⟨state,requests⟩ := flood_state x lsa now
    refine ⟨⟨kept.toBounded.flood lsa now,?_⟩,?_,?_⟩
    · unfold perform
      rw [state,requests]
      exact kept.loading
    · intro k old new before after
      exact same_requests requests before after
    · intro k sent there
      have own := kept.update_keys k sent there
      rcases update_flood there lsa now with still | ⟨due,same,newer⟩
      · subst own
        exact .waits sent.2 still
      · exact update_of_flood own (.inr ⟨_,newer,same.symm⟩)
  | receive body database now => exact receive_progress kept body database now
  | tick now =>
    obtain ⟨dd_due,request_due,after⟩ := tick_shape x now
    refine ⟨kept_tick kept now,?_,?_⟩
    · intro k old new before found
      rw [show x.perform (.tick now) = (x.tick now).1 from rfl,after] at found
      exact same_requests rfl before found
    · intro k sent there
      have own := kept.update_keys k sent there
      subst own
      rw [show x.perform (.tick now) = (x.tick now).1 from rfl,after]
      have found : (x.retransmit.mapValues (fun _ sent => if sent.2 ≤ now then (sent.1,retransmit_at now) else sent)).get?
          (key sent.1) = some (if sent.2 ≤ now then (sent.1,retransmit_at now) else sent) := by
        rw [OrderedMap.get?_mapValues,there]
        rfl
      by_cases due : sent.2 ≤ now
      · rw [if_pos due] at found
        exact .waits _ found
      · rw [if_neg due] at found
        exact .waits sent.2 found

theorem Reached.kept (reached : x.Reached) : x.Kept := by
  obtain ⟨here,peer,mtu,sequence,operations,rfl⟩ := reached
  have run : ∀ (rest : List (Operation L)) (x : OspfExchange L), x.Kept → (rest.foldl perform x).Kept := by
    intro rest
    induction rest with
    | nil => intro x kept; exact kept
    | cons operation rest ih => intro x kept; exact ih _ (perform_progress kept operation).1
  exact run operations _ (kept_new here peer mtu sequence)

/-! ### Newer instances -/

theorem compare_lsa_gt_iff (a b : LsaHeader) : compare_lsa a b = .gt ↔
    b.sequence.toInt < a.sequence.toInt ∨ b.sequence.toInt = a.sequence.toInt ∧
      (b.checksum.toNat < a.checksum.toNat ∨ b.checksum.toNat = a.checksum.toNat ∧
        (a.age = LSA_MAX_AGE ∧ b.age ≠ LSA_MAX_AGE ∨
          a.age ≠ LSA_MAX_AGE ∧ b.age ≠ LSA_MAX_AGE ∧ a.age.toNat + 900 < b.age.toNat)) := by
  unfold compare_lsa compare_lsa_instances
  simp only [Ordering.then_eq_gt,compare_gt_iff_gt,compare_eq_iff_eq,eq_comm (a := b.sequence.toInt),
    eq_comm (a := b.checksum.toNat)]
  refine or_congr_right (and_congr_right' (or_congr_right (and_congr_right' ?_)))
  by_cases a_max : a.age = LSA_MAX_AGE
  · by_cases b_max : b.age = LSA_MAX_AGE
    · simp [a_max,b_max]
    · simp only [a_max,b_max,if_true,decide_true,decide_false,ne_eq,not_false_eq_true,and_self,not_true,false_and,
        or_false,iff_true]
      decide
  · by_cases b_max : b.age = LSA_MAX_AGE
    · simp [a_max,b_max]
    · simp only [a_max,b_max,or_self,if_false,not_false_eq_true,false_and,true_and,false_or,ne_eq]
      split
      · rw [compare_gt_iff_gt]
        omega
      · simp only [reduceCtorEq,false_iff]
        omega

/-- Newer is transitive on the headers of the protocol, so a chain of replacements ends with a newer instance. -/
theorem newer_lsa_iff (later h : LsaHeader) : @Newer Lsa _ later h ↔ compare_lsa later h = .gt := by
  constructor
  · intro newer
    induction newer with
    | single step => exact step
    | tail _ step ih =>
      have next := (compare_lsa_gt_iff _ _).mp step
      have before := (compare_lsa_gt_iff _ _).mp ih
      rw [compare_lsa_gt_iff]
      grind
  · exact fun newer => .single newer

/-- The invariants of an exchange over every run, with what one further call does to the requests and
the updates. -/
theorem exchange_invariants (reached : x.Reached) :
    x.Kept ∧ (x.offset ≤ x.page_end ∧ x.page_end ≤ x.summary.length) ∧
      ∀ operation, Progress x operation (x.perform operation) :=
  ⟨reached.kept,⟨offset_le_page_end reached.kept.toBounded,page_end_le x⟩,
    fun operation => (perform_progress reached.kept operation).2⟩

/-- The header of an advertisement that a peer describes. -/
def heard : LsaHeader := ⟨0,2,⟨.Router,2,2⟩,1,7,36⟩

/-- The peer has described an advertisement as the master, and sends it. -/
theorem exchange_invariants_loading :
    let x := ([.start ∅ 0,.receive (.DatabaseDescription 1500 2 7 9 []) ∅ 0,
      .receive (.DatabaseDescription 1500 2 1 10 [heard]) ∅ 0] : List (Operation Lsa)).foldl perform (new 1 2 1500 7)
    let sent : Operation Lsa := .receive (.LinkStateUpdate [⟨0,2,2,2,1,.Router 0 []⟩]) ∅ 0
    x.state = .Loading ∧ x.requests.values = [heard] ∧ x.Kept ∧ (x.offset ≤ x.page_end ∧ x.page_end ≤ x.summary.length) ∧
      Progress x sent (x.perform sent) := by
  intro x sent
  obtain ⟨kept,bounds,progress⟩ := exchange_invariants (x := x) ⟨1,2,1500,7,_,rfl⟩
  exact ⟨by decide +kernel,by rfl,kept,bounds,progress sent⟩

end OspfExchange
end Rios.Ospf
