import Rios.OspfRestart

/-!
# Both sides of a restarted adjacency

The packets between a side that stays and a side that starts over, under every
order of deliveries, ticks and floods. The restart is recognised within two
rounds of ticks unless the staying side takes the invitation for a late
acknowledgment, and then it never is.
-/

namespace Rios.Ospf
open Rios.Machine Rios.Device Rios.Queue OspfExchange

/-- Both sides, the packets in flight, and the ticks since the restart with the time of the last one. -/
structure Pair (L : Type) [ExchangeAdvertisement L] where
  e : OspfExchange L
  p : OspfExchange L
  to_e : List (OspfBody L)
  to_p : List (OspfBody L)
  now : SimTime
  e_ticks : Nat
  p_ticks : Nat
  e_ticked : SimTime
  p_ticked : SimTime

variable {L : Type} [ExchangeAdvertisement L]

namespace Pair

/-- The side `p` has just been started; its first description is on its way. -/
def restarted (e p : OspfExchange L) (database : Database L) (now : SimTime) : Pair L :=
  { e := e,
    p := (p.start database now).1,
    to_e := [(p.start database now).2],
    to_p := [],
    now := now,
    e_ticks := 0,
    p_ticks := 0,
    e_ticked := now,
    p_ticked := now }

def deliver_e (s : Pair L) (body : OspfBody L) (rest : List (OspfBody L)) (database : Database L) (now : SimTime) : Pair L :=
  { s with
    e := (s.e.receive body database now).1,
    to_e := rest,
    to_p := s.to_p ++ (s.e.receive body database now).2.packets,
    now := now }

def deliver_p (s : Pair L) (body : OspfBody L) (rest : List (OspfBody L)) (database : Database L) (now : SimTime) : Pair L :=
  { s with
    p := (s.p.receive body database now).1,
    to_p := rest,
    to_e := s.to_e ++ (s.p.receive body database now).2.packets,
    now := now }

def tick_e (s : Pair L) (now : SimTime) : Pair L :=
  { s with
    e := (s.e.tick now).1,
    to_p := s.to_p ++ (s.e.tick now).2,
    now := now,
    e_ticks := s.e_ticks + 1,
    e_ticked := now }

def tick_p (s : Pair L) (now : SimTime) : Pair L :=
  { s with
    p := (s.p.tick now).1,
    to_e := s.to_e ++ (s.p.tick now).2,
    now := now,
    p_ticks := s.p_ticks + 1,
    p_ticked := now }

def flood_e (s : Pair L) (lsa : L) (now : SimTime) : Pair L :=
  { s with e := (s.e.flood lsa now).1, to_p := s.to_p ++ (s.e.flood lsa now).2.toList, now := now }

def flood_p (s : Pair L) (lsa : L) (now : SimTime) : Pair L :=
  { s with p := (s.p.flood lsa now).1, to_e := s.to_e ++ (s.p.flood lsa now).2.toList, now := now }

/-- The packet at the head of a channel arrives; each side has any database at the time. -/
inductive Delivery (s : Pair L) : Pair L → Prop where
  | deliver_e (body : OspfBody L) (rest : List (OspfBody L)) (database : Database L) (now : SimTime)
      (head : s.to_e = body :: rest) (later : s.now ≤ now) : Delivery s (s.deliver_e body rest database now)
  | deliver_p (body : OspfBody L) (rest : List (OspfBody L)) (database : Database L) (now : SimTime)
      (head : s.to_p = body :: rest) (later : s.now ≤ now) : Delivery s (s.deliver_p body rest database now)

/-- A side ticks, at least five seconds after its last tick, or floods an advertisement. -/
inductive Action (s : Pair L) : Pair L → Prop where
  | tick_e (now : SimTime) (later : s.now ≤ now) (spaced : 1 ≤ s.e_ticks → retransmit_at s.e_ticked ≤ now) :
      Action s (s.tick_e now)
  | tick_p (now : SimTime) (later : s.now ≤ now) (spaced : 1 ≤ s.p_ticks → retransmit_at s.p_ticked ≤ now) :
      Action s (s.tick_p now)
  | flood_e (lsa : L) (now : SimTime) (later : s.now ≤ now) : Action s (s.flood_e lsa now)
  | flood_p (lsa : L) (now : SimTime) (later : s.now ≤ now) : Action s (s.flood_p lsa now)

def Unsettled (s : Pair L) : Prop := s.e.state = .ExStart ∨ s.p.state = .ExStart

/-- The states that are reached without both sides ever being out of ExStart together. -/
inductive Waits (first : Pair L) : Pair L → Prop where
  | here (unsettled : first.Unsettled) : Waits first first
  | delivery {s t : Pair L} (before : Waits first s) (step : Delivery s t) (unsettled : t.Unsettled) : Waits first t
  | action {s t : Pair L} (before : Waits first s) (step : Action s t) (unsettled : t.Unsettled) : Waits first t

/-- Both sides have ticked twice and everything they sent has arrived. -/
def TwoRounds (s : Pair L) : Prop := 2 ≤ s.e_ticks ∧ 2 ≤ s.p_ticks ∧ s.to_e = [] ∧ s.to_p = []

/-- Deliveries in a row, none of which brings both sides out of ExStart. -/
inductive Deliveries (first : Pair L) : Nat → Pair L → Prop where
  | none : Deliveries first 0 first
  | more {n : Nat} {s t : Pair L} (before : Deliveries first n s) (step : Delivery s t) (unsettled : t.Unsettled) :
      Deliveries first (n + 1) t

/-! ### The phases of a restart -/

/-- `p` has ticked at most once, and its description is due again by its next tick. -/
def Early (s : Pair L) : Prop := s.p_ticks ≤ 1 ∧ s.p.dd_due ≤ retransmit_at s.p_ticked

/-- So many invitations are on their way, or the next ones are still due. -/
def Supplied (k : Nat) (s : Pair L) : Prop := k ≤ s.to_e.length ∨ s.Early

/-- The staying side has not heard of the restart. -/
structure Unheard (mtu : UInt16) (q r : UInt32) (s : Pair L) : Prop where
  e : Standing mtu r s.e
  p : Inviting mtu q s.p
  roles : s.p.master = !s.e.master
  heeds : Heeds s.e q
  to_e : ∀ body ∈ s.to_e, body = invitation mtu q
  waiting : s.to_e ≠ []
  to_p : ∀ body ∈ s.to_p, ¬ Welcome s.p.master q body
  supplied : s.Supplied 2
  clock : s.p_ticked ≤ s.now

/-- Both sides are in ExStart. -/
structure Restarted (mtu : UInt16) (q r : UInt32) (s : Pair L) : Prop where
  e : Inviting mtu r s.e
  p : Inviting mtu q s.p
  roles : s.p.master = !s.e.master
  to_e : ∀ body ∈ s.to_e, body = invitation mtu q
  to_p : ∃ old fresh, s.to_p = old ++ fresh ∧ (∀ body ∈ old, ¬ Welcome s.p.master q body) ∧
    (∀ body ∈ fresh, body = invitation mtu r) ∧ (s.e.master = true → fresh ≠ [])
  supplied : s.e.master = false → s.Supplied 1
  clock : s.p_ticked ≤ s.now

/-- The slave `y` has answered the master `x` in ExStart. -/
structure Answered (mtu : UInt16) (q : UInt32) (x y : OspfExchange L) (for_x for_y : List (OspfBody L)) : Prop where
  inviting : Inviting mtu q x
  standing : Standing mtu q y
  master : x.master = true
  slave : y.master = false
  invited : ∀ body ∈ for_y, body = invitation mtu q
  answer : for_y ≠ [] ∨ ∃ body ∈ for_x, Reply mtu q body

inductive Course (mtu : UInt16) (q r : UInt32) (s : Pair L) : Prop where
  | unheard (phase : s.Unheard mtu q r)
  | restarted (phase : s.Restarted mtu q (r + 1))
  | answered_p (phase : Answered mtu (r + 1) s.e s.p s.to_e s.to_p)
  | answered_e (phase : Answered mtu q s.p s.e s.to_p s.to_e)

/-- No delivery raises it, whatever it is answered with. -/
def weight (s : Pair L) : Nat :=
  if s.e.master then
    if s.e.state = .ExStart then s.to_e.length + 2 * s.to_p.length else 3 * s.to_e.length + 2 * s.to_p.length
  else 2 * s.to_e.length + s.to_p.length

variable {mtu : UInt16} {s : Pair L} {q r : UInt32}

theorem Course.not_twoRounds (course : s.Course mtu q r) : ¬ s.TwoRounds := by
  rintro ⟨-,ticks,to_e,to_p⟩
  cases course with
  | unheard phase => exact phase.waiting to_e
  | restarted phase =>
    cases role : s.e.master with
    | true =>
      obtain ⟨old,fresh,both,-,-,sent⟩ := phase.to_p
      rw [to_p] at both
      exact sent role (List.append_eq_nil_iff.mp both.symm).2
    | false =>
      rcases phase.supplied role with one | ⟨once,-⟩
      · rw [to_e] at one
        exact absurd one (Nat.not_succ_le_zero 0)
      · omega
  | answered_p phase =>
    rcases phase.answer with more | ⟨body,inside,-⟩
    · exact more to_p
    · rw [to_e] at inside
      cases inside
  | answered_e phase =>
    rcases phase.answer with more | ⟨body,inside,-⟩
    · exact more to_e
    · rw [to_p] at inside
      cases inside

/-! ### Deliveries -/

variable {rest : List (OspfBody L)} {body : OspfBody L} {x y : OspfExchange L}

theorem Answered.deliver_x {to_y : List (OspfBody L)} (phase : Answered mtu q x y (body :: rest) to_y)
    (database : Database L) (now : SimTime) (unsettled : (x.receive body database now).1.state = .ExStart) :
    x.receive body database now = (x,⟨[],[]⟩) ∧ Answered mtu q x y rest to_y := by
  have ignored : x.receive body database now = (x,⟨[],[]⟩) := by
    rcases receive_exStart phase.inviting.state body database now with ignored | left
    · exact ignored
    · rw [left] at unsettled
      cases unsettled
  refine ⟨ignored,phase.inviting,phase.standing,phase.master,phase.slave,phase.invited,?_⟩
  rcases phase.answer with more | ⟨answer,inside,reply⟩
  · exact .inl more
  · rcases List.mem_cons.mp inside with rfl | later
    · have left := phase.inviting.receive_reply phase.master reply database now
      rw [left] at unsettled
      cases unsettled
    · exact .inr ⟨answer,later,reply⟩

theorem Answered.deliver_y {to_x : List (OspfBody L)} (phase : Answered mtu q x y to_x (body :: rest))
    (database : Database L) (now : SimTime) :
    ∃ reply, y.receive body database now = (y,⟨[reply],[]⟩) ∧ Answered mtu q x y (to_x ++ [reply]) rest := by
  obtain ⟨reply,last,answers⟩ := phase.standing.reply phase.slave
  have deaf : ¬ Heeds y q := by
    rw [Heeds,phase.slave,if_neg Bool.false_ne_true]
    exact not_not.mpr phase.standing.sequence_eq.symm
  refine ⟨reply,?_,phase.inviting,phase.standing,phase.master,phase.slave,?_,.inr ⟨reply,?_,answers⟩⟩
  · rw [phase.invited body List.mem_cons_self,(phase.standing.receive_invitation q database now).2 deaf,phase.slave,
      if_neg Bool.false_ne_true,last]
    rfl
  · intro other later
    exact phase.invited other (List.mem_cons_of_mem _ later)
  · exact List.mem_append_right _ List.mem_cons_self

theorem length_of_cons {α : Type} {items rest : List α} {item : α} (head : items = item :: rest) :
    items.length = rest.length + 1 := by
  rw [head,List.length_cons]

theorem Unheard.deliver_e (phase : s.Unheard mtu q r) (head : s.to_e = body :: rest) (database : Database L)
    (now : SimTime) (later : s.now ≤ now) :
    (s.deliver_e body rest database now).Restarted mtu q (r + 1) ∧ weight (s.deliver_e body rest database now) < s.weight := by
  have invited : body = invitation mtu q := phase.to_e body (by rw [head]; exact List.mem_cons_self)
  have heard := (phase.e.receive_invitation q database now).1 phase.heeds
  have opened : (s.e.restart database now).2 = invitation mtu (r + 1) := by
    rw [← phase.e.mtu_eq,← phase.e.sequence_eq]
    rfl
  have fresh : Inviting mtu (r + 1) (s.e.restart database now).1 := by
    rw [← phase.e.mtu_eq,← phase.e.sequence_eq]
    exact inviting_start { s.e with sequence := s.e.sequence + 1 } database now
  have after : s.deliver_e body rest database now =
      { s with e := (s.e.restart database now).1, to_e := rest, to_p := s.to_p ++ [invitation mtu (r + 1)], now := now } := by
    rw [Pair.deliver_e,invited,heard,← opened]
  have role : (s.e.restart database now).1.master = s.e.master := rfl
  rw [after]
  refine ⟨⟨fresh,phase.p,phase.roles.trans (congrArg not role.symm),?_,⟨s.to_p,[invitation mtu (r + 1)],rfl,phase.to_p,?_,?_⟩,
    ?_,phase.clock.trans later⟩,?_⟩
  · intro other inside
    exact phase.to_e other (by rw [head]; exact List.mem_cons_of_mem _ inside)
  · intro other inside
    exact List.mem_singleton.mp inside
  · intro _
    exact List.cons_ne_nil _ _
  · intro _
    rcases phase.supplied with two | early
    · rw [head,List.length_cons] at two
      exact .inl (Nat.le_of_succ_le_succ two)
    · exact .inr early
  · have old : s.e.state ≠ .ExStart := state_ne_exStart phase.e.able
    have new : (s.e.restart database now).1.state = .ExStart := rfl
    have shorter := length_of_cons head
    simp only [weight,role,new,if_true,if_neg old,List.length_append,List.length_cons,List.length_nil]
    split <;> omega

theorem Unheard.deliver_p (phase : s.Unheard mtu q r) (head : s.to_p = body :: rest) (database : Database L)
    (now : SimTime) (later : s.now ≤ now) :
    (s.deliver_p body rest database now).Unheard mtu q r ∧ weight (s.deliver_p body rest database now) < s.weight := by
  have unwelcome : ¬ Welcome s.p.master s.p.sequence body := by
    rw [phase.p.sequence_eq]
    exact phase.to_p body (by rw [head]; exact List.mem_cons_self)
  have after : s.deliver_p body rest database now = { s with to_p := rest, now := now } := by
    rw [Pair.deliver_p,receive_unwelcome phase.p.state unwelcome database now]
    simp only [List.append_nil]
  rw [after]
  refine ⟨⟨phase.e,phase.p,phase.roles,phase.heeds,phase.to_e,phase.waiting,?_,phase.supplied,phase.clock.trans later⟩,?_⟩
  · intro other inside
    exact phase.to_p other (by rw [head]; exact List.mem_cons_of_mem _ inside)
  · have shorter := length_of_cons head
    simp only [weight]
    split
    · split <;> omega
    · omega

theorem Restarted.deliver_e (phase : s.Restarted mtu q r) (head : s.to_e = body :: rest) (database : Database L)
    (now : SimTime) (later : s.now ≤ now) :
    ((s.deliver_e body rest database now).Restarted mtu q r ∨
      Answered mtu q (s.deliver_e body rest database now).p (s.deliver_e body rest database now).e
        (s.deliver_e body rest database now).to_p (s.deliver_e body rest database now).to_e) ∧
      weight (s.deliver_e body rest database now) < s.weight := by
  have invited : body = invitation mtu q := phase.to_e body (by rw [head]; exact List.mem_cons_self)
  have others : ∀ other ∈ rest, other = invitation mtu q := by
    intro other inside
    exact phase.to_e other (by rw [head]; exact List.mem_cons_of_mem _ inside)
  have shorter := length_of_cons head
  cases role : s.e.master with
  | true =>
    have unwelcome : ¬ Welcome s.e.master s.e.sequence body := by
      rw [role,invited]
      exact invitation_unwelcome mtu q s.e.sequence
    have after : s.deliver_e body rest database now = { s with to_e := rest, now := now } := by
      rw [Pair.deliver_e,receive_unwelcome phase.e.state unwelcome database now]
      simp only [List.append_nil]
    rw [after]
    refine ⟨.inl ⟨phase.e,phase.p,phase.roles,others,phase.to_p,?_,phase.clock.trans later⟩,?_⟩
    · intro slave
      rw [role] at slave
      cases slave
    · simp only [weight,role,phase.e.state,if_true]
      omega
  | false =>
    obtain ⟨reply,packets,answers,standing,slave⟩ := phase.e.receive_invitation role q database now
    have after : s.deliver_e body rest database now =
        { s with
          e := (s.e.receive (invitation mtu q) database now).1,
          to_e := rest,
          to_p := s.to_p ++ [reply],
          now := now } := by
      rw [Pair.deliver_e,invited,packets]
    rw [after]
    have master : s.p.master = true := by rw [phase.roles,role,Bool.not_false]
    refine ⟨.inr ⟨phase.p,standing,master,slave,others,.inr ⟨reply,List.mem_append_right _ List.mem_cons_self,answers⟩⟩,?_⟩
    simp only [weight,role,slave,Bool.false_eq_true,if_false,List.length_append,List.length_cons,List.length_nil]
    omega

theorem Restarted.deliver_p (phase : s.Restarted mtu q r) (head : s.to_p = body :: rest) (database : Database L)
    (now : SimTime) (later : s.now ≤ now) :
    ((s.deliver_p body rest database now).Restarted mtu q r ∨
      Answered mtu r (s.deliver_p body rest database now).e (s.deliver_p body rest database now).p
        (s.deliver_p body rest database now).to_e (s.deliver_p body rest database now).to_p) ∧
      weight (s.deliver_p body rest database now) < s.weight := by
  obtain ⟨old,fresh,both,ignored,invited,sent⟩ := phase.to_p
  have shorter := length_of_cons head
  have skipped : ∀ rest' fresh', rest = rest' ++ fresh' → (∀ other ∈ rest', ¬ Welcome s.p.master q other) →
      (∀ other ∈ fresh', other = invitation mtu r) → (s.e.master = true → fresh' ≠ []) →
      ¬ Welcome s.p.master s.p.sequence body →
      ((s.deliver_p body rest database now).Restarted mtu q r ∨
        Answered mtu r (s.deliver_p body rest database now).e (s.deliver_p body rest database now).p
          (s.deliver_p body rest database now).to_e (s.deliver_p body rest database now).to_p) ∧
        weight (s.deliver_p body rest database now) < s.weight := by
    intro rest' fresh' parts ignored' invited' sent' unwelcome
    have after : s.deliver_p body rest database now = { s with to_p := rest, now := now } := by
      rw [Pair.deliver_p,receive_unwelcome phase.p.state unwelcome database now]
      simp only [List.append_nil]
    rw [after]
    refine ⟨.inl ⟨phase.e,phase.p,phase.roles,phase.to_e,⟨rest',fresh',parts,ignored',invited',sent'⟩,phase.supplied,
      phase.clock.trans later⟩,?_⟩
    simp only [weight]
    split
    · split <;> omega
    · omega
  cases old with
  | cons first old =>
    obtain ⟨rfl,parts⟩ := List.cons.inj (head.symm.trans both)
    refine skipped old fresh parts (fun other inside => ignored other (List.mem_cons_of_mem _ inside)) invited sent ?_
    rw [phase.p.sequence_eq]
    exact ignored body List.mem_cons_self
  | nil =>
    have whole : fresh = body :: rest := both.symm.trans head
    have invitation_head : body = invitation mtu r := invited body (by rw [whole]; exact List.mem_cons_self)
    have others : ∀ other ∈ rest, other = invitation mtu r := by
      intro other inside
      exact invited other (by rw [whole]; exact List.mem_cons_of_mem _ inside)
    cases role : s.e.master with
    | false =>
      refine skipped [] rest rfl (fun other inside => by cases inside) others (fun master => ?_) ?_
      · rw [role] at master
        cases master
      · rw [phase.roles,role,Bool.not_false,invitation_head]
        exact invitation_unwelcome mtu r s.p.sequence
    | true =>
      have client : s.p.master = false := by rw [phase.roles,role,Bool.not_true]
      obtain ⟨reply,packets,answers,standing,slave⟩ := phase.p.receive_invitation client r database now
      have after : s.deliver_p body rest database now =
          { s with
            p := (s.p.receive (invitation mtu r) database now).1,
            to_p := rest,
            to_e := s.to_e ++ [reply],
            now := now } := by
        rw [Pair.deliver_p,invitation_head,packets]
      rw [after]
      refine ⟨.inr ⟨phase.e,standing,role,slave,others,.inr ⟨reply,List.mem_append_right _ List.mem_cons_self,answers⟩⟩,?_⟩
      simp only [weight,role,phase.e.state,if_true,List.length_append,List.length_cons,List.length_nil]
      omega

/-- A delivery goes on with the course and lowers the weight, or settles both sides. -/
theorem Course.delivery {t : Pair L} (course : s.Course mtu q r) (step : Delivery s t) (unsettled : t.Unsettled) :
    t.Course mtu q r ∧ t.weight < s.weight := by
  cases step with
  | deliver_e body rest database now head later =>
    cases course with
    | unheard phase => exact (phase.deliver_e head database now later).imp_left .restarted
    | restarted phase => exact (phase.deliver_e head database now later).imp_left (fun next => next.elim .restarted .answered_e)
    | answered_p phase =>
      rw [head] at phase
      have starting : (s.e.receive body database now).1.state = .ExStart := by
        rcases unsettled with starting | other
        · exact starting
        · exact absurd other (state_ne_exStart phase.standing.able)
      obtain ⟨ignored,next⟩ := phase.deliver_x database now starting
      have after : s.deliver_e body rest database now = { s with to_e := rest, now := now } := by
        rw [Pair.deliver_e,ignored]
        simp only [List.append_nil]
      have shorter := length_of_cons head
      rw [after]
      refine ⟨.answered_p next,?_⟩
      simp only [weight,phase.master,phase.inviting.state,if_true]
      omega
    | answered_e phase =>
      rw [head] at phase
      obtain ⟨reply,resent,next⟩ := phase.deliver_y database now
      have after : s.deliver_e body rest database now = { s with to_e := rest, to_p := s.to_p ++ [reply], now := now } := by
        rw [Pair.deliver_e,resent]
      have shorter := length_of_cons head
      rw [after]
      refine ⟨.answered_e next,?_⟩
      simp only [weight,phase.slave,Bool.false_eq_true,if_false,List.length_append,List.length_cons,List.length_nil]
      omega
  | deliver_p body rest database now head later =>
    cases course with
    | unheard phase => exact (phase.deliver_p head database now later).imp_left .unheard
    | restarted phase => exact (phase.deliver_p head database now later).imp_left (fun next => next.elim .restarted .answered_p)
    | answered_p phase =>
      rw [head] at phase
      obtain ⟨reply,resent,next⟩ := phase.deliver_y database now
      have after : s.deliver_p body rest database now = { s with to_p := rest, to_e := s.to_e ++ [reply], now := now } := by
        rw [Pair.deliver_p,resent]
      have shorter := length_of_cons head
      rw [after]
      refine ⟨.answered_p next,?_⟩
      simp only [weight,phase.master,phase.inviting.state,if_true,List.length_append,List.length_cons,List.length_nil]
      omega
    | answered_e phase =>
      rw [head] at phase
      have starting : (s.p.receive body database now).1.state = .ExStart := by
        rcases unsettled with other | starting
        · exact absurd other (state_ne_exStart phase.standing.able)
        · exact starting
      obtain ⟨ignored,next⟩ := phase.deliver_x database now starting
      have after : s.deliver_p body rest database now = { s with to_p := rest, now := now } := by
        rw [Pair.deliver_p,ignored]
        simp only [List.append_nil]
      have shorter := length_of_cons head
      rw [after]
      refine ⟨.answered_e next,?_⟩
      simp only [weight,phase.slave,Bool.false_eq_true,if_false]
      omega

/-! ### Ticks and floods -/

theorem le_retransmit_at (now : SimTime) : now ≤ retransmit_at now := by
  unfold retransmit_at
  generalize RETRANSMIT_US = delay
  exact le_satAdd64 now delay

theorem retransmit_at_mono {a b : SimTime} (le : a ≤ b) : retransmit_at a ≤ retransmit_at b := by
  unfold retransmit_at
  generalize RETRANSMIT_US = delay
  have small : a.toNat ≤ b.toNat := UInt64.le_iff_toNat_le.mp le
  rw [UInt64.le_iff_toNat_le,satAdd64_toNat,satAdd64_toNat]
  omega

/-- What an inviting side adds to its channel by a tick. -/
theorem tick_invitations (inviting : Inviting mtu q x) (now : SimTime) {sent : List (OspfBody L)}
    (all : ∀ body ∈ sent, body = invitation mtu q) :
    ∀ body ∈ sent ++ (x.tick now).2, body = invitation mtu q := by
  intro body inside
  rcases List.mem_append.mp inside with old | new
  · exact all body old
  · rcases (inviting.tick now).2 with ⟨-,one⟩ | ⟨-,-,none⟩
    · rw [one] at new
      exact List.mem_singleton.mp new
    · rw [none] at new
      cases new

variable {now : SimTime}

/-- The second tick after the restart finds the description due, at the latest. -/
theorem Supplied.tick_p {k : Nat} (supplied : s.Supplied k) (inviting : Inviting mtu q s.p)
    (near : k ≤ s.to_e.length + 1) (clock : s.p_ticked ≤ now)
    (spaced : 1 ≤ s.p_ticks → retransmit_at s.p_ticked ≤ now) : (s.tick_p now).Supplied k := by
  rcases (inviting.tick now).2 with ⟨-,one⟩ | ⟨early,due,none⟩
  · left
    rw [Pair.tick_p,one,List.length_append]
    exact near
  · rcases supplied with enough | ⟨once,before⟩
    · left
      rw [Pair.tick_p,none,List.append_nil]
      exact enough
    · right
      have first : s.p_ticks = 0 := by
        by_contra ticked
        have reached := before.trans (spaced (Nat.one_le_iff_ne_zero.mpr ticked))
        exact absurd early (not_lt.mpr reached)
      constructor
      · show s.p_ticks + 1 ≤ 1
        omega
      · show (s.p.tick now).1.dd_due ≤ retransmit_at now
        rw [due]
        exact before.trans (retransmit_at_mono clock)

theorem Answered.tick_x {for_x for_y : List (OspfBody L)} (phase : Answered mtu q x y for_x for_y) (now : SimTime) :
    Answered mtu q (x.tick now).1 y for_x (for_y ++ (x.tick now).2) := by
  refine ⟨(phase.inviting.tick now).1,phase.standing,(sameTalk_tick x now).master.trans phase.master,phase.slave,
    tick_invitations phase.inviting now phase.invited,?_⟩
  rcases phase.answer with more | found
  · exact .inl (fun none => more (List.append_eq_nil_iff.mp none).1)
  · exact .inr found

/-- The slave goes on with the same conversation, whatever it sends on its own. -/
theorem Answered.talk_y {z : OspfExchange L} {for_x for_y : List (OspfBody L)}
    (phase : Answered mtu q x y for_x for_y) (same : SameTalk y z) (sent : List (OspfBody L)) :
    Answered mtu q x z (for_x ++ sent) for_y := by
  refine ⟨phase.inviting,phase.standing.of_sameTalk same,phase.master,same.master.trans phase.slave,phase.invited,?_⟩
  rcases phase.answer with more | ⟨body,inside,reply⟩
  · exact .inl more
  · exact .inr ⟨body,List.mem_append_left _ inside,reply⟩

theorem heeds_of_sameTalk {number : UInt32} (heeds : Heeds x number) (same : SameTalk x y) :
    Heeds y number := by
  rw [Heeds,same.master,same.sequence]
  exact heeds

/-- The staying side goes on with the same conversation and sends nothing that `p` would take. -/
theorem Unheard.talk_e (phase : s.Unheard mtu q r) (same : SameTalk s.e x) {sent : List (OspfBody L)}
    (unwelcome : ∀ body ∈ sent, ¬ Welcome (!s.e.master) q body) (later : s.now ≤ now) (ticks : Nat) (ticked : SimTime) :
    ({ s with e := x, to_p := s.to_p ++ sent, now := now, e_ticks := ticks, e_ticked := ticked } : Pair L).Unheard mtu q r := by
  refine ⟨phase.e.of_sameTalk same,phase.p,?_,heeds_of_sameTalk phase.heeds same,phase.to_e,phase.waiting,?_,phase.supplied,
    phase.clock.trans later⟩
  · exact phase.roles.trans (congrArg not same.master.symm)
  · intro body inside
    rcases List.mem_append.mp inside with old | new
    · exact phase.to_p body old
    · show ¬ Welcome s.p.master q body
      rw [phase.roles]
      exact unwelcome body new

theorem Unheard.tick_p (phase : s.Unheard mtu q r) (later : s.now ≤ now)
    (spaced : 1 ≤ s.p_ticks → retransmit_at s.p_ticked ≤ now) : (s.tick_p now).Unheard mtu q r := by
  have same := sameTalk_tick s.p now
  have waiting : 1 ≤ s.to_e.length := List.length_pos_iff.mpr phase.waiting
  refine ⟨phase.e,(phase.p.tick now).1,same.master.trans phase.roles,phase.heeds,tick_invitations phase.p now phase.to_e,?_,?_,
    phase.supplied.tick_p phase.p (by omega) (phase.clock.trans later) spaced,le_refl now⟩
  · exact fun none => phase.waiting (List.append_eq_nil_iff.mp none).1
  · intro body inside
    show ¬ Welcome (s.p.tick now).1.master q body
    rw [same.master]
    exact phase.to_p body inside

theorem Restarted.tick_e (phase : s.Restarted mtu q r) (later : s.now ≤ now) :
    (s.tick_e now).Restarted mtu q r := by
  obtain ⟨old,fresh,both,ignored,invited,sent⟩ := phase.to_p
  have same := sameTalk_tick s.e now
  refine ⟨(phase.e.tick now).1,phase.p,phase.roles.trans (congrArg not same.master.symm),phase.to_e,
    ⟨old,fresh ++ (s.e.tick now).2,?_,ignored,tick_invitations phase.e now invited,?_⟩,?_,phase.clock.trans later⟩
  · show s.to_p ++ (s.e.tick now).2 = old ++ (fresh ++ (s.e.tick now).2)
    rw [both,List.append_assoc]
  · intro master none
    exact sent (same.master.symm.trans master) (List.append_eq_nil_iff.mp none).1
  · intro slave
    exact phase.supplied (same.master.symm.trans slave)

theorem Restarted.tick_p (phase : s.Restarted mtu q r) (later : s.now ≤ now)
    (spaced : 1 ≤ s.p_ticks → retransmit_at s.p_ticked ≤ now) : (s.tick_p now).Restarted mtu q r := by
  obtain ⟨old,fresh,both,ignored,invited,sent⟩ := phase.to_p
  have same := sameTalk_tick s.p now
  refine ⟨phase.e,(phase.p.tick now).1,same.master.trans phase.roles,tick_invitations phase.p now phase.to_e,
    ⟨old,fresh,both,?_,invited,sent⟩,?_,le_refl now⟩
  · intro body inside
    show ¬ Welcome (s.p.tick now).1.master q body
    rw [same.master]
    exact ignored body inside
  · intro slave
    exact (phase.supplied slave).tick_p phase.p (Nat.le_add_left 1 _) (phase.clock.trans later) spaced

/-- A tick or a flood goes on with the course. -/
theorem Course.action {t : Pair L} (course : s.Course mtu q r) (step : Action s t) :
    t.Course mtu q r := by
  cases step with
  | tick_e now later spaced =>
    cases course with
    | unheard phase =>
      exact .unheard (phase.talk_e (sameTalk_tick s.e now) (fun body sent => phase.e.tick_unwelcome sent q) later _ _)
    | restarted phase => exact .restarted (phase.tick_e later)
    | answered_p phase => exact .answered_p (phase.tick_x now)
    | answered_e phase => exact .answered_e (phase.talk_y (sameTalk_tick s.e now) _)
  | tick_p now later spaced =>
    cases course with
    | unheard phase => exact .unheard (phase.tick_p later spaced)
    | restarted phase => exact .restarted (phase.tick_p later spaced)
    | answered_p phase => exact .answered_p (phase.talk_y (sameTalk_tick s.p now) _)
    | answered_e phase => exact .answered_e (phase.tick_x now)
  | flood_e lsa now later =>
    have silent : s.e.state = .ExStart → s.flood_e lsa now = { s with now := now } := by
      intro starting
      rw [Pair.flood_e,flood_exStart starting]
      simp only [Option.toList_none,List.append_nil]
    cases course with
    | unheard phase =>
      exact .unheard (phase.talk_e (sameTalk_flood s.e lsa now) (fun body sent => flood_unwelcome sent _ q) later _ _)
    | restarted phase =>
      rw [silent phase.e.state]
      exact .restarted ⟨phase.e,phase.p,phase.roles,phase.to_e,phase.to_p,phase.supplied,phase.clock.trans later⟩
    | answered_p phase =>
      rw [silent phase.inviting.state]
      exact .answered_p phase
    | answered_e phase => exact .answered_e (phase.talk_y (sameTalk_flood s.e lsa now) _)
  | flood_p lsa now later =>
    have silent : s.p.state = .ExStart → s.flood_p lsa now = { s with now := now } := by
      intro starting
      rw [Pair.flood_p,flood_exStart starting]
      simp only [Option.toList_none,List.append_nil]
    cases course with
    | unheard phase =>
      rw [silent phase.p.state]
      exact .unheard ⟨phase.e,phase.p,phase.roles,phase.heeds,phase.to_e,phase.waiting,phase.to_p,phase.supplied,
        phase.clock.trans later⟩
    | restarted phase =>
      rw [silent phase.p.state]
      exact .restarted ⟨phase.e,phase.p,phase.roles,phase.to_e,phase.to_p,phase.supplied,phase.clock.trans later⟩
    | answered_p phase => exact .answered_p (phase.talk_y (sameTalk_flood s.p lsa now) _)
    | answered_e phase =>
      rw [silent phase.inviting.state]
      exact .answered_e phase

variable {first : Pair L}

theorem Waits.course (course : first.Course mtu q r) (waits : Waits first s) :
    s.Course mtu q r := by
  induction waits with
  | here _ => exact course
  | delivery _ step unsettled ih => exact (ih.delivery step unsettled).1
  | action _ step _ ih => exact ih.action step

theorem weight_le (s : Pair L) : s.weight ≤ 3 * (s.to_e.length + s.to_p.length) := by
  unfold weight
  split
  · split <;> omega
  · omega

/-- Only so many deliveries follow each other before both sides are out of ExStart. -/
theorem Deliveries.bounded {n : Nat} (course : first.Course mtu q r) (deliveries : Deliveries first n s) :
    s.Course mtu q r ∧ n + s.weight ≤ first.weight := by
  induction deliveries with
  | none => exact ⟨course,by omega⟩
  | more _ step unsettled ih =>
    obtain ⟨next,lower⟩ := ih.1.delivery step unsettled
    exact ⟨next,by omega⟩

/-! ### The restart that is never heard -/

/-- The master takes every invitation for a late acknowledgment. -/
structure Deaf (mtu : UInt16) (q r : UInt32) (s : Pair L) : Prop where
  e : Standing mtu r s.e
  p : Inviting mtu q s.p
  master : s.e.master = true
  slave : s.p.master = false
  late : q + 1 = r
  to_e : ∀ body ∈ s.to_e, body = invitation mtu q
  to_p : ∀ body ∈ s.to_p, ¬ Welcome false q body

theorem Deaf.unsettled (deaf : s.Deaf mtu q r) : s.Unsettled := .inr deaf.p.state

theorem Deaf.ignores (deaf : s.Deaf mtu q r) (database : Database L) (now : SimTime) :
    s.e.receive (invitation mtu q) database now = (s.e,⟨[],[]⟩) := by
  have unheard : ¬ Heeds s.e q := by
    rw [Heeds,deaf.master,if_pos rfl,not_not,deaf.e.sequence_eq,← deaf.late]
    exact (UInt32.add_sub_cancel q 1).symm
  have ignored := (deaf.e.receive_invitation q database now).2 unheard
  rw [deaf.master,if_pos rfl] at ignored
  exact ignored

theorem Deaf.deliver_e (deaf : s.Deaf mtu q r) (head : s.to_e = body :: rest) (database : Database L) (now : SimTime) :
    s.deliver_e body rest database now = { s with to_e := rest, now := now } := by
  rw [Pair.deliver_e,deaf.to_e body (by rw [head]; exact List.mem_cons_self),deaf.ignores]
  simp only [List.append_nil]

theorem Deaf.deliver_p (deaf : s.Deaf mtu q r) (head : s.to_p = body :: rest) (database : Database L) (now : SimTime) :
    s.deliver_p body rest database now = { s with to_p := rest, now := now } := by
  have unwelcome : ¬ Welcome s.p.master s.p.sequence body := by
    rw [deaf.slave,deaf.p.sequence_eq]
    exact deaf.to_p body (by rw [head]; exact List.mem_cons_self)
  rw [Pair.deliver_p,receive_unwelcome deaf.p.state unwelcome]
  simp only [List.append_nil]

theorem Deaf.fewer_e (deaf : s.Deaf mtu q r) (head : s.to_e = body :: rest) (now : SimTime) :
    ({ s with to_e := rest, now := now } : Pair L).Deaf mtu q r :=
  { deaf with to_e := fun other inside => deaf.to_e other (by rw [head]; exact List.mem_cons_of_mem _ inside) }

theorem Deaf.fewer_p (deaf : s.Deaf mtu q r) (head : s.to_p = body :: rest) (now : SimTime) :
    ({ s with to_p := rest, now := now } : Pair L).Deaf mtu q r :=
  { deaf with to_p := fun other inside => deaf.to_p other (by rw [head]; exact List.mem_cons_of_mem _ inside) }

theorem Deaf.tick_e (deaf : s.Deaf mtu q r) (now : SimTime) :
    (s.tick_e now).Deaf mtu q r := by
  have same := sameTalk_tick s.e now
  refine ⟨deaf.e.of_sameTalk same,deaf.p,same.master.trans deaf.master,deaf.slave,deaf.late,deaf.to_e,?_⟩
  intro body inside
  rcases List.mem_append.mp inside with old | new
  · exact deaf.to_p body old
  · have unwelcome := deaf.e.tick_unwelcome new q
    rw [deaf.master,Bool.not_true] at unwelcome
    exact unwelcome

theorem Deaf.tick_p (deaf : s.Deaf mtu q r) (now : SimTime) :
    (s.tick_p now).Deaf mtu q r :=
  ⟨deaf.e,(deaf.p.tick now).1,deaf.master,(sameTalk_tick s.p now).master.trans deaf.slave,deaf.late,
    tick_invitations deaf.p now deaf.to_e,deaf.to_p⟩

/-- Whatever is in flight arrives and changes nothing. -/
theorem Deaf.drain :
    ∀ (n : Nat) (s : Pair L), s.to_e.length + s.to_p.length = n → s.Deaf mtu q r → Waits first s →
      Waits first { s with to_e := [], to_p := [] } ∧ ({ s with to_e := [], to_p := [] } : Pair L).Deaf mtu q r := by
  intro n
  induction n with
  | zero =>
    intro s none deaf waits
    have empty_e : s.to_e = [] := List.eq_nil_of_length_eq_zero (by omega)
    have empty_p : s.to_p = [] := List.eq_nil_of_length_eq_zero (by omega)
    obtain ⟨e,p,to_e,to_p,_,_,_,_,_⟩ := s
    cases empty_e
    cases empty_p
    exact ⟨waits,deaf⟩
  | succ n ih =>
    intro s count deaf waits
    cases head_e : s.to_e with
    | cons body rest =>
      have next := deaf.fewer_e head_e s.now
      have step := Delivery.deliver_e body rest ∅ s.now head_e (le_refl s.now)
      rw [deaf.deliver_e head_e ∅ s.now] at step
      refine ih { s with to_e := rest, now := s.now } ?_ next (waits.delivery step next.unsettled)
      rw [head_e,List.length_cons] at count
      show rest.length + s.to_p.length = n
      omega
    | nil =>
      cases head_p : s.to_p with
      | nil =>
        rw [head_e,head_p] at count
        cases count
      | cons body rest =>
        have next := deaf.fewer_p head_p s.now
        have step := Delivery.deliver_p body rest ∅ s.now head_p (le_refl s.now)
        rw [deaf.deliver_p head_p ∅ s.now] at step
        have shorter : ({ s with to_p := rest, now := s.now } : Pair L).to_e.length + rest.length = n := by
          rw [head_e,head_p,List.length_cons] at count
          show s.to_e.length + rest.length = n
          rw [head_e]
          simp only [List.length_nil] at count ⊢
          omega
        exact ih { s with to_p := rest, now := s.now } shorter next (waits.delivery step next.unsettled)

/-- One round of ticks, with everything delivered: nothing has changed. -/
theorem Deaf.round (deaf : s.Deaf mtu q r) (waits : Waits first s) (now : SimTime) (later : s.now ≤ now)
    (spaced_e : 1 ≤ s.e_ticks → retransmit_at s.e_ticked ≤ now)
    (spaced_p : 1 ≤ s.p_ticks → retransmit_at s.p_ticked ≤ now) :
    ∃ t : Pair L, Waits first t ∧ t.Deaf mtu q r ∧ t.to_e = [] ∧ t.to_p = [] ∧ t.now = now ∧ t.e_ticked = now ∧
      t.p_ticked = now ∧
      t.e_ticks = s.e_ticks + 1 ∧ t.p_ticks = s.p_ticks + 1 := by
  have ticked_e := deaf.tick_e now
  have waits_e := waits.action (.tick_e now later spaced_e) ticked_e.unsettled
  have ticked_p := ticked_e.tick_p now
  have waits_p := waits_e.action (.tick_p now (le_refl now) spaced_p) ticked_p.unsettled
  obtain ⟨drained,still⟩ := Deaf.drain _ _ rfl ticked_p waits_p
  exact ⟨_,drained,still,rfl,rfl,rfl,rfl,rfl,rfl,rfl⟩

/-- The restart that looks like a late acknowledgment is still ignored after two rounds. -/
theorem Deaf.twoRounds (deaf : s.Deaf mtu q r) (ticks_e : s.e_ticks = 0) (ticks_p : s.p_ticks = 0) :
    ∃ t, Waits s t ∧ t.TwoRounds := by
  have early_e : 1 ≤ s.e_ticks → retransmit_at s.e_ticked ≤ s.now := fun one => absurd one (by omega)
  have early_p : 1 ≤ s.p_ticks → retransmit_at s.p_ticked ≤ s.now := fun one => absurd one (by omega)
  obtain ⟨t,waits,still,-,-,now,ticked_e,ticked_p,count_e,count_p⟩ :=
    deaf.round (.here deaf.unsettled) s.now (le_refl s.now) early_e early_p
  obtain ⟨u,waits',-,none_e,none_p,-,-,-,count_e',count_p'⟩ :=
    still.round waits (retransmit_at s.now) (by rw [now]; exact le_retransmit_at s.now) (fun _ => by rw [ticked_e])
      (fun _ => by rw [ticked_p])
  exact ⟨u,waits',by omega,by omega,none_e,none_p⟩

end Pair

/-! ### The restart as a whole -/

/-- Both sides out of ExStart together by the end of two rounds, and no deliveries without end. -/
def Recognised (first : Pair L) : Prop :=
  ∀ s, first.Waits s → ¬ s.TwoRounds ∧ ∀ n t, s.Deliveries n t → n ≤ 3 * (s.to_e.length + s.to_p.length)

open Pair

theorem restarted_deaf {e : OspfExchange L} (described : e.Described) (able : e.can_exchange = true) {p : OspfExchange L}
    (mtu : p.mtu = e.mtu) (opposite : p.master = !e.master) (database : Database L) (now : SimTime)
    (master : e.master = true)
    (late : p.sequence + 1 = e.sequence) : (restarted e p database now).Deaf e.mtu p.sequence e.sequence := by
  have inviting := inviting_start p database now
  rw [mtu] at inviting
  refine ⟨⟨able,rfl,rfl,described⟩,inviting,master,?_,late,?_,(fun body inside => by cases inside)⟩
  · show p.master = false
    rw [opposite,master,Bool.not_true]
  · intro body inside
    rw [List.mem_singleton.mp inside,← mtu]
    rfl

theorem restarted_course {e : OspfExchange L} (described : e.Described) (able : e.can_exchange = true) {p : OspfExchange L}
    (mtu : p.mtu = e.mtu) (opposite : p.master = !e.master) (database : Database L) (now : SimTime)
    (heard : ¬ (e.master = true ∧ p.sequence + 1 = e.sequence)) :
    (restarted e p database now).Course e.mtu p.sequence e.sequence := by
  have inviting := inviting_start p database now
  rw [mtu] at inviting
  have invited : ∀ body ∈ (restarted e p database now).to_e, body = invitation e.mtu p.sequence := by
    intro body inside
    rw [List.mem_singleton.mp inside,← mtu]
    rfl
  have standing : Standing e.mtu e.sequence e := ⟨able,rfl,rfl,described⟩
  by_cases heeds : Heeds e p.sequence
  · refine .unheard ⟨standing,inviting,opposite,heeds,invited,List.cons_ne_nil _ _,(fun body inside => by cases inside),?_,
      le_refl now⟩
    exact .inr ⟨Nat.zero_le 1,le_refl (retransmit_at now)⟩
  · have slave : e.master = false := by
      by_contra role
      have master : e.master = true := by
        cases role' : e.master with
        | true => rfl
        | false => exact absurd role' role
      rw [Heeds,master,if_pos rfl,not_not] at heeds
      refine heard ⟨master,?_⟩
      rw [heeds]
      exact UInt32.sub_add_cancel e.sequence 1
    rw [Heeds,slave,if_neg Bool.false_ne_true,not_not] at heeds
    have master : p.master = true := by rw [opposite,slave,Bool.not_false]
    refine .answered_e ⟨inviting,?_,master,slave,invited,.inl (List.cons_ne_nil _ _)⟩
    rw [heeds]
    exact standing

theorem recognised_of_course {mtu : UInt16} {q r : UInt32} {first : Pair L} (course : first.Course mtu q r) :
    Recognised first := by
  intro s waits
  have here := waits.course course
  refine ⟨here.not_twoRounds,?_⟩
  intro n t deliveries
  have bounded := (deliveries.bounded here).2
  have le := weight_le s
  omega

/-- A new neighbour is recognised within two rounds, in every order of deliveries, ticks and floods, exactly when it is not
    the slave of a master whose sequence number is one past its own. -/
theorem restart_recognised (e : OspfExchange L) (reached : e.Reached) (able : e.can_exchange = true) (here peer : Ipv4Addr)
    (sequence : UInt32) (opposite : (new here peer e.mtu sequence : OspfExchange L).master = !e.master)
    (database : Database L) (now : SimTime) :
    Recognised (restarted e (new here peer e.mtu sequence) database now) ↔
      ¬ (e.master = true ∧ sequence + 1 = e.sequence) := by
  have described := reached.described
  have mtu : (new here peer e.mtu sequence : OspfExchange L).mtu = e.mtu := rfl
  constructor
  · rintro recognised ⟨master,late⟩
    have deaf := restarted_deaf described able mtu opposite database now master late
    obtain ⟨s,waits,two⟩ := deaf.twoRounds rfl rfl
    exact (recognised s waits).1 two
  · intro heard
    exact recognised_of_course (restarted_course described able mtu opposite database now heard)

/-- A slave in Exchange, after the first description of its master. -/
def exchanging_slave : OspfExchange Lsa :=
  [Operation.start ∅ 0,Operation.receive (invitation 1500 7) ∅ 0].foldl perform (new 1 2 1500 20)

theorem restart_recognised_slave :
    Recognised (restarted exchanging_slave (new 2 1 exchanging_slave.mtu 7) ∅ 1000) ↔
      ¬ (exchanging_slave.master = true ∧ 7 + 1 = exchanging_slave.sequence) :=
  restart_recognised exchanging_slave ⟨1,2,1500,20,[.start ∅ 0,.receive (invitation 1500 7) ∅ 0],rfl⟩ (by decide +kernel) 2 1 7
    (by decide +kernel) ∅ 1000

/-- A master in Exchange, after the first page of its slave. -/
def exchanging_master : OspfExchange Lsa :=
  [Operation.start ∅ 0,Operation.receive (.DatabaseDescription 1500 2 0 10 []) ∅ 0].foldl perform (new 2 1 1500 10)

/-- The slave restarts with the number that the exchange began with: the master does not hear it. -/
theorem restart_ignored_master :
    exchanging_master.Reached ∧ exchanging_master.state = .Exchange ∧
      (new 1 2 exchanging_master.mtu 10 : OspfExchange Lsa).master = !exchanging_master.master ∧
      ¬ Recognised (restarted exchanging_master (new 1 2 exchanging_master.mtu 10) ∅ 1000) := by
  have reached : exchanging_master.Reached :=
    ⟨2,1,1500,10,[.start ∅ 0,.receive (.DatabaseDescription 1500 2 0 10 []) ∅ 0],rfl⟩
  have opposite : (new 1 2 exchanging_master.mtu 10 : OspfExchange Lsa).master = !exchanging_master.master := by
    decide +kernel
  have mtu : (new 1 2 exchanging_master.mtu 10 : OspfExchange Lsa).mtu = exchanging_master.mtu := rfl
  refine ⟨reached,by decide +kernel,opposite,?_⟩
  intro recognised
  have deaf := restarted_deaf reached.described (by decide +kernel) mtu opposite ∅ 1000 (by decide +kernel)
    (by decide +kernel)
  obtain ⟨s,waits,two⟩ := deaf.twoRounds rfl rfl
  exact (recognised s waits).1 two

end Rios.Ospf
