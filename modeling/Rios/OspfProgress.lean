import Rios.OspfDatabase
import Rios.OspfInvariants

/-!
# Progress of the link-state database

As long as a key stays in the database, its instances never become older: the sequence
number, then the checksum, then MaxAge. A key leaves with an instance that has been
MaxAge for five seconds, when no neighbour has anything left to ask or to acknowledge.
-/

namespace Rios.OspfDevice
open Rios.Machine Rios.Device Rios.Queue Rios.Ospf Rios.OspfSpf

/-! ### Ranks -/

theorem succ_toInt {sequence : Int32} (more : sequence ≠ Int32.maxValue) : (sequence + 1).toInt = sequence.toInt + 1 := by
  have low := sequence.le_toInt
  have high := sequence.toInt_lt
  have top : sequence.toInt ≠ 2147483647 := fun same => more (Int32.toInt_inj.mp same)
  rw [Int32.toInt_add,show (1 : Int32).toInt = 1 from rfl]
  exact Int.bmod_eq_of_le (by omega) (by omega)

/-- The checksum, as far as it counts: the last instance of the router's own is only there to be flushed. -/
def counted (self_id : Ipv4Addr) (lsa : Lsa) : Nat :=
  if lsa.advertising_router = self_id ∧ lsa.sequence = Int32.maxValue then 0 else lsa.checksum.toNat

theorem counted_other {self_id : Ipv4Addr} {lsa : Lsa} (other : lsa.advertising_router ≠ self_id) :
    counted self_id lsa = lsa.checksum.toNat := if_neg (fun own => other own.1)

/-- How new an instance is at a time. -/
def rank (self_id : Ipv4Addr) (now : SimTime) (stored : StoredLsa) : Int ×ₗ Nat ×ₗ Bool :=
  toLex (stored.lsa.sequence.toInt,toLex (counted self_id stored.lsa,decide ((stored.current now).age = LSA_MAX_AGE)))

section Ranks
variable {self_id : Ipv4Addr} {now later : SimTime} {old new : StoredLsa}

theorem rank_le_iff : rank self_id now old ≤ rank self_id later new ↔
    old.lsa.sequence.toInt < new.lsa.sequence.toInt ∨ old.lsa.sequence.toInt = new.lsa.sequence.toInt ∧
      (counted self_id old.lsa < counted self_id new.lsa ∨ counted self_id old.lsa = counted self_id new.lsa ∧
        ((old.current now).age = LSA_MAX_AGE → (new.current later).age = LSA_MAX_AGE)) := by
  rw [rank,rank,Prod.Lex.toLex_le_toLex,Prod.Lex.toLex_le_toLex]
  refine or_congr_right (and_congr_right' (or_congr_right (and_congr_right' ?_)))
  by_cases before : (old.current now).age = LSA_MAX_AGE <;> by_cases after : (new.current later).age = LSA_MAX_AGE <;>
    simp [before,after]

/-- Time only ages an instance. -/
theorem rank_later (self_id : Ipv4Addr) (stored : StoredLsa) (order : now ≤ later) :
    rank self_id now stored ≤ rank self_id later stored :=
  rank_le_iff.mpr (.inr ⟨rfl,.inr ⟨rfl,StoredLsa.current_max_later order⟩⟩)

theorem rank_sequence (less : old.lsa.sequence.toInt < new.lsa.sequence.toInt) :
    rank self_id now old ≤ rank self_id later new := rank_le_iff.mpr (.inl less)

/-- A MaxAge instance of the same advertisement. -/
theorem rank_aged (sequence : new.lsa.sequence = old.lsa.sequence) (same : counted self_id new.lsa = counted self_id old.lsa)
    (aged : new.lsa.age = LSA_MAX_AGE) : rank self_id now old ≤ rank self_id later new :=
  rank_le_iff.mpr (.inr ⟨by rw [sequence],.inr ⟨same.symm,fun _ => StoredLsa.current_max aged later⟩⟩)

end Ranks

namespace OspfRuntime
variable {self : OspfRuntime} {now : SimTime} {self_id : Ipv4Addr} {key : ScopedKey} {old : StoredLsa}

/-- An origination makes nothing older. -/
theorem Left.rank_le {desired : Desired} {left : StoredLsa} (became : Left self_id desired now key old left) :
    rank self_id now old ≤ rank self_id now left := by
  cases became with
  | kept _ _ => exact le_rfl
  | aged_out _ _ => exact rank_aged rfl rfl rfl
  | renewed lsa _ _ more _ =>
    refine rank_sequence ?_
    show old.lsa.sequence.toInt < (old.lsa.sequence + 1).toInt
    rw [succ_toInt more]
    exact Int.lt_succ _

/-- An accepted advertisement is newer than what it replaces, whether it is fought back or not. -/
theorem admitted_rank_le {lsa : Lsa} {header : LsaHeader} (named : self.router_id = some self_id)
    (read : lsa.header = .ok header) (accepted : self.accepts key header now = true)
    (found : self.database.get? key = some old) (router : old.lsa.advertising_router = lsa.advertising_router)
    (peer : NeighborKey) :
    rank self_id now old ≤ rank self_id now ⟨self.admitted key lsa (some peer),now⟩ := by
  obtain ⟨age,sequence,checksum,valid⟩ := Lsa.header_fields read
  unfold accepts at accepted
  rw [found] at accepted
  dsimp only at accepted
  cases before : (old.current now).header with
  | error _ =>
    rw [before] at accepted
    cases accepted
  | ok old_header =>
    rw [before] at accepted
    obtain ⟨old_age,old_sequence,old_checksum,-⟩ := Lsa.header_fields before
    have newer := (OspfExchange.compare_lsa_gt_iff header old_header).mp (of_decide_eq_true accepted)
    rw [age,sequence,checksum,old_age,old_sequence,old_checksum] at newer
    have newer : old.lsa.sequence.toInt < lsa.sequence.toInt ∨ old.lsa.sequence.toInt = lsa.sequence.toInt ∧
        (old.lsa.checksum.toNat < lsa.checksum.toNat ∨ old.lsa.checksum.toNat = lsa.checksum.toNat ∧
          ((old.current now).age = LSA_MAX_AGE → lsa.age = LSA_MAX_AGE)) :=
      newer.imp_right (And.imp_right (Or.imp_right (And.imp_right (fun ages aged => by
        rcases ages with ⟨reached,-⟩ | ⟨-,young,-⟩
        · exact reached
        · exact absurd aged young))))
    unfold admitted
    rw [named,found]
    by_cases mine : lsa.advertising_router = self_id
    · rw [if_pos ⟨congrArg some mine,rfl⟩,fight_back]
      have least : old.lsa.sequence.toInt ≤ lsa.sequence.toInt := newer.elim le_of_lt (fun same => same.1.le)
      by_cases last : lsa.sequence = Int32.maxValue
      · rw [if_pos last]
        by_cases same : old.lsa.sequence = lsa.sequence
        · refine rank_aged same.symm ?_ rfl
          rw [counted,counted,if_pos ⟨mine,last⟩,if_pos ⟨router.trans mine,same.trans last⟩]
        · exact rank_sequence (lt_of_le_of_ne least (fun equal => same (Int32.toInt_inj.mp equal)))
      · rw [if_neg last]
        refine rank_sequence ?_
        show old.lsa.sequence.toInt < (lsa.sequence + 1).toInt
        rw [succ_toInt last]
        exact Int.lt_add_one_iff.mpr least
    · rw [if_neg (fun fought => mine (Option.some.inj fought.1))]
      refine rank_le_iff.mpr (newer.imp_right (And.imp_right ?_))
      have other : old.lsa.advertising_router ≠ self_id := fun own => mine (router.symm.trans own)
      rw [counted_other other,show counted self_id (⟨lsa,now⟩ : StoredLsa).lsa = lsa.checksum.toNat from counted_other mine,
        StoredLsa.current_now valid]
      exact id

/-! ### Installations -/

/-- Nothing gets lost or older, and the router keeps the bodies of its own advertisements. -/
structure Installs (self_id : Ipv4Addr) (now : SimTime) (before after : OspfRuntime) : Prop where
  router_id : after.router_id = before.router_id
  kept : ∀ key old, before.database.get? key = some old → ∃ new, after.database.get? key = some new ∧
    rank self_id now old ≤ rank self_id now new ∧ (new = old ∨ new.installed = now) ∧
      ((ofLex key).2.advertising_router = self_id → new.lsa.body = old.lsa.body)

theorem SameStore.installs {before after : OspfRuntime} (same : SameStore before after) (self_id : Ipv4Addr)
    (now : SimTime) :
    Installs self_id now before after :=
  ⟨same.router_id,fun _ old found => ⟨old,by rw [same.database,found],le_rfl,.inl rfl,fun _ => rfl⟩⟩

theorem Installs.trans {first second third : OspfRuntime} (before : Installs self_id now first second)
    (after : Installs self_id now second third) : Installs self_id now first third := by
  refine ⟨after.router_id.trans before.router_id,fun key old found => ?_⟩
  obtain ⟨middle,there,rank_middle,when_middle,body_middle⟩ := before.kept key old found
  obtain ⟨new,here,rank_new,when_new,body_new⟩ := after.kept key middle there
  refine ⟨new,here,rank_middle.trans rank_new,?_,fun mine => (body_new mine).trans (body_middle mine)⟩
  rcases when_new with rfl | newly
  · exact when_middle
  · exact .inr newly

theorem install_installs (sound : self.Sound) (named : self.router_id = some self_id) (area : UInt32) (lsa : Lsa)
    (peer : NeighborKey) (now : SimTime) : Installs self_id now self (self.ospf_install area lsa (some peer) now).1 := by
  rcases install_cases self area lsa (some peer) now with same | ⟨header,read,accepted,same⟩
  · rw [same]
    exact (SameStore.refl self).installs self_id now
  · refine Installs.trans ?_ (same.installs self_id now)
    refine ⟨rfl,fun key old found => ?_⟩
    rw [OrderedMap.get?_insert]
    by_cases replaced : key = scoped_key (scope area lsa) lsa
    · rw [if_pos replaced]
      rw [replaced] at found
      have routers : old.lsa.advertising_router = lsa.advertising_router :=
        congrArg LsaKey.advertising_router (Prod.mk.inj (toLex.injective (sound.keyed _ old found))).2
      refine ⟨_,rfl,admitted_rank_le named read accepted found routers peer,.inr rfl,fun mine => ?_⟩
      rw [replaced] at mine
      unfold admitted
      rw [if_pos ⟨(congrArg some (show lsa.advertising_router = self_id from mine)).trans named.symm,rfl⟩,found,fight_back]
      split <;> rfl
    · rw [if_neg replaced]
      exact ⟨old,found,le_rfl,.inl rfl,fun _ => rfl⟩

theorem install_all_installs (sound : self.Sound) (named : self.router_id = some self_id) (area : UInt32)
    (peer : NeighborKey) (now : SimTime) (lsas : List Lsa) :
    Installs self_id now self (install_all area (some peer) now self lsas).1 := by
  induction lsas generalizing self with
  | nil => exact (SameStore.refl self).installs self_id now
  | cons lsa rest ih =>
    have first := install_installs sound named area lsa peer now
    exact first.trans (ih (sound.install area lsa (some peer) now) (first.router_id.trans named))

theorem accept_installs (sound : self.Sound) (named : self.router_id = some self_id) {interface : InterfaceId}
    {source : Ipv4Addr} {packet : OspfV2Packet} {heard : OspfRuntime × List OspfTransmission}
    (accepted : self.accept_packet interface source packet now = some heard) : Installs self_id now self heard.1 := by
  rcases accept_store accepted with same | ⟨between,same,lsas,installed⟩
  · exact same.installs self_id now
  · rw [installed]
    exact (same.installs self_id now).trans
      (install_all_installs (sound.same same) (same.router_id.trans named) _ _ now lsas)

/-! ### Exchanges at rest -/

theorem tick_rests (exchange : OspfExchange Lsa) (now : SimTime) :
    (exchange.tick now).1.state = exchange.state ∧ (exchange.tick now).1.pending = exchange.pending := by
  obtain ⟨dd_due,request_due,shape⟩ := OspfExchange.tick_shape exchange now
  rw [shape]
  exact ⟨rfl,congrArg (Prod.mk _) (OrderedMap.size_mapValues _ _)⟩

theorem drained_iff (self : OspfRuntime) : self.drained = true ↔ ∀ key neighbor exchange,
    self.neighbors.get? key = some neighbor → neighbor.exchange = some exchange →
      exchange.pending = (0,0) ∧ exchange.state = .Full := by
  rw [drained,List.all_eq_true]
  constructor
  · intro quiet key neighbor exchange found adjacent
    have here := quiet neighbor ((OrderedMap.mem_values _ _).mpr ⟨key,found⟩)
    rw [adjacent] at here
    simpa using here
  · intro quiet neighbor member
    obtain ⟨key,found⟩ := (OrderedMap.mem_values _ _).mp member
    cases adjacent : neighbor.exchange with
    | none => rfl
    | some exchange => simpa using quiet key neighbor exchange found adjacent

/-- The timers of exchanges at rest do nothing. -/
theorem tick_drained (settings : Settings) (self : OspfRuntime) (now : SimTime)
    (quiet : (((self.ospf_prepare settings now).ospf_elect settings now).1.ospf_originate settings now).1.drained = true) :
    (self.ospf_tick settings now).1.drained = true := by
  unfold ospf_tick
  dsimp only
  generalize (((self.ospf_prepare settings now).ospf_elect settings now).1.ospf_originate settings now).1 = originated at quiet ⊢
  split
  · exact quiet
  · have ticked : (((originated.send_hellos now).1.tick_exchanges now).1).drained = true := by
      rw [drained_iff] at quiet ⊢
      intro key neighbor exchange found adjacent
      rw [tick_exchanges,OrderedMap.get?_mapValues] at found
      obtain ⟨before,here,rfl⟩ := Option.map_eq_some_iff.mp found
      obtain ⟨earlier,held,rfl⟩ := Option.map_eq_some_iff.mp adjacent
      have rests := tick_rests earlier now
      have idle := quiet key before earlier here held
      exact ⟨rests.2.trans idle.1,rests.1.trans idle.2⟩
    unfold recompute_ospf_routes
    split <;> exact ticked

/-! ### One operation -/

/-- What can become of an instance: it gives way to one that is no older, and an own body only to a wanted one, or it
    has been at MaxAge for long and all exchanges are at rest. -/
inductive Became (self_id : Ipv4Addr) (now : SimTime) (key : ScopedKey) (wanted : LsaBody → Prop) (final : OspfRuntime)
    (old : StoredLsa) : Option StoredLsa → Prop where
  | stays (new : StoredLsa) (newer : rank self_id now old ≤ rank self_id now new)
      (body : (ofLex key).2.advertising_router = self_id → new.lsa.body = old.lsa.body ∨ wanted new.lsa.body) :
      Became self_id now key wanted final old (some new)
  | leaves (aged : old.lsa.age = LSA_MAX_AGE) (long : 5000000 ≤ now.toNat - old.installed.toNat)
    (quiet : final.drained = true) :
      Became self_id now key wanted final old none

theorem Became.mono {wanted needed : LsaBody → Prop} {final : OspfRuntime} {result : Option StoredLsa}
    (became : Became self_id now key wanted final old result) (implies : ∀ body, wanted body → needed body) :
    Became self_id now key needed final old result := by
  cases became with
  | stays new newer body => exact .stays new newer (fun mine => (body mine).imp_right (implies _))
  | leaves aged long quiet => exact .leaves aged long quiet

/-- What was installed at the same time cannot leave. -/
theorem Installs.became {before after final : OspfRuntime} (installs : Installs self_id now before after)
    {wanted : LsaBody → Prop} {result : Option StoredLsa} (found : before.database.get? key = some old)
    (later : ∀ middle, after.database.get? key = some middle → Became self_id now key wanted final middle result) :
    Became self_id now key wanted final old result := by
  obtain ⟨middle,there,newer,when,own⟩ := installs.kept key old found
  cases later middle there with
  | stays new newest body =>
    exact .stays new (newer.trans newest) (fun mine => (body mine).imp_left (fun same => same.trans (own mine)))
  | leaves aged long quiet =>
    rcases when with rfl | newly
    · exact .leaves aged long quiet
    · rw [newly,Nat.sub_self] at long
      exact absurd long (by decide)

/-- A body that an operation originates under a key. -/
def Wants (self : OspfRuntime) (operation : Operation) (self_id : Ipv4Addr) (key : ScopedKey) (body : LsaBody) : Prop :=
  ∃ settings before now, self.originating operation = some (settings,before,now) ∧
    ∃ lsa, (before.ospf_desired settings self_id now).get? key = some lsa ∧ lsa.body = body

/-- Preparation keeps a configured process and its database. -/
theorem prepare_store {settings : Settings} (configured : settings.config ≠ none) (named : self.router_id = some self_id)
    (now : SimTime) : SameStore self (self.ospf_prepare settings now) := by
  rcases prepare_cases settings self now with ⟨nothing,-⟩ | ⟨config,-,database,router_id⟩
  · exact absurd nothing configured
  · refine ⟨database,?_⟩
    rw [router_id,named]
    rfl

/-- The origination of a tick is the only thing that removes an instance. -/
theorem tick_became (sound : self.Sound) (named : self.router_id = some self_id) {settings : Settings}
    (configured : settings.config ≠ none) (found : self.database.get? key = some old) :
    Became self_id now key
      (fun body => ∃ lsa, ((((self.ospf_prepare settings now).ospf_elect settings now).1.ospf_desired settings self_id now).get? key =
        some lsa ∧ lsa.body = body))
      (self.ospf_tick settings now).1 old ((self.ospf_tick settings now).1.database.get? key) := by
  have same := (prepare_store configured named now).trans (elect_store settings (self.ospf_prepare settings now) now)
  have quiet := tick_drained settings self now
  rw [(tick_store settings self now).database]
  generalize ((self.ospf_prepare settings now).ospf_elect settings now).1 = before at same quiet ⊢
  have here : before.database.get? key = some old := by rw [same.database,found]
  obtain ⟨left,after,became⟩ := outcome_left here self_id (before.ospf_desired settings self_id now) now
  rcases originated_lookup (sound.same same) (same.router_id.trans named) settings now key with stays |
    ⟨gone,drained,stored,held,aged,long⟩
  · rw [stays,after]
    refine .stays left became.rank_le (fun mine => ?_)
    cases became with
    | kept _ _ => exact .inl rfl
    | aged_out _ _ => exact .inl rfl
    | renewed lsa wanted _ _ _ => exact .inr ⟨lsa,wanted,rfl⟩
  · rw [gone]
    rw [after] at held
    obtain rfl := Option.some.inj held
    cases became with
    | kept _ _ => exact .leaves aged long (quiet drained)
    | aged_out _ _ =>
      rw [Nat.sub_self] at long
      exact absurd long (by decide)
    | renewed _ _ _ _ _ =>
      rw [Nat.sub_self] at long
      exact absurd long (by decide)

end OspfRuntime

namespace Operation

/-- The time of an operation. -/
def time : Operation → Option SimTime
  | .tick _ now => some now
  | .receive _ _ _ _ now => some now
  | .restart => none

/-- Whether an operation leaves the process without what it has learnt. -/
def resets : Operation → Bool
  | .tick settings _ => settings.config.isNone
  | .receive settings _ _ _ _ => settings.config.isNone
  | .restart => true

end Operation

namespace OspfRuntime
variable {self : OspfRuntime} {self_id : Ipv4Addr}

/-- A process without a configuration has nothing. -/
theorem perform_resets {operation : Operation} (resets : operation.resets = true) : self.perform operation = default := by
  have unconfigured : ∀ (settings : Settings) (now : SimTime), settings.config = none → self.ospf_prepare settings now =
      default := by
    intro settings now nothing
    rw [ospf_prepare,nothing]
  cases operation with
  | tick settings now =>
    have nothing : settings.config = none := Option.isNone_iff_eq_none.mp resets
    rw [perform,ospf_tick,unconfigured settings now nothing]
    rfl
  | receive settings interface source packet now =>
    have nothing : settings.config = none := Option.isNone_iff_eq_none.mp resets
    rw [perform,receive_ospf_v2,unconfigured settings now nothing]
    rfl
  | restart => rfl

/-- One operation and one instance. -/
theorem perform_became (sound : self.Sound) (named : self.router_id = some self_id) {operation : Operation} {now : SimTime}
    (timed : operation.time = some now) (configured : operation.resets = false) {key : ScopedKey} {old : StoredLsa}
    (found : self.database.get? key = some old) :
    Became self_id now key (self.Wants operation self_id key) (self.perform operation) old
      ((self.perform operation).database.get? key) := by
  cases operation with
  | tick settings time =>
    obtain rfl := Option.some.inj timed
    have configured : settings.config ≠ none := Option.isSome_iff_ne_none.mp (Option.isNone_eq_false_iff.mp configured)
    exact (tick_became sound named configured found).mono (fun body wanted => ⟨settings,_,time,rfl,wanted⟩)
  | receive settings interface source packet time =>
    obtain rfl := Option.some.inj timed
    have configured : settings.config ≠ none := Option.isSome_iff_ne_none.mp (Option.isNone_eq_false_iff.mp configured)
    have prepared := prepare_store configured named time
    have ready := sound.prepare settings time
    have known : (self.ospf_prepare settings time).router_id = some self_id := prepared.router_id.trans named
    have performed : self.perform (.receive settings interface source packet time) =
        (self.receive_ospf_v2 settings interface source packet time).1 := rfl
    unfold receive_ospf_v2 at performed
    dsimp only at performed
    refine (prepared.installs self_id time).became found (fun middle held => ?_)
    cases accepted : (self.ospf_prepare settings time).accept_packet interface source packet time with
    | none =>
      rw [accepted] at performed
      rw [performed,held]
      exact .stays middle le_rfl (fun _ => .inl rfl)
    | some heard =>
      rw [accepted] at performed
      rw [performed]
      have installs := accept_installs ready known accepted
      refine installs.became held (fun new there => ?_)
      refine (tick_became (ready.accept accepted) (installs.router_id.trans known) configured there).mono (fun body wanted => ?_)
      refine ⟨settings,_,time,?_,wanted⟩
      rw [originating,driven,accepted]
      rfl
  | restart => cases timed

/-! ### Runs -/

theorem originate_router_id (settings : Settings) (self : OspfRuntime) (now : SimTime) :
    (self.ospf_originate settings now).1.router_id = self.router_id := by
  unfold ospf_originate
  split
  · rfl
  · dsimp only
    unfold remove_aged
    split <;> exact (updates_database _ _ _).2

theorem tick_router_id {settings : Settings} (configured : settings.config ≠ none) (named : self.router_id = some self_id)
    (now : SimTime) : (self.ospf_tick settings now).1.router_id = some self_id := by
  have same := (prepare_store configured named now).trans (elect_store settings (self.ospf_prepare settings now) now)
  rw [(tick_store settings self now).router_id,originate_router_id,same.router_id,named]

/-- A configured process keeps its identity. -/
theorem perform_router_id (sound : self.Sound) (named : self.router_id = some self_id) {operation : Operation}
    (configured : operation.resets = false) : (self.perform operation).router_id = some self_id := by
  cases operation with
  | tick settings now =>
    exact tick_router_id (Option.isSome_iff_ne_none.mp (Option.isNone_eq_false_iff.mp configured)) named now
  | receive settings interface source packet now =>
    have configured : settings.config ≠ none := Option.isSome_iff_ne_none.mp (Option.isNone_eq_false_iff.mp configured)
    have known := (prepare_store configured named now).router_id.trans named
    rw [perform,receive_ospf_v2]
    dsimp only
    split
    · exact known
    · rename_i heard accepted
      exact tick_router_id configured ((accept_installs (sound.prepare settings now) known accepted).router_id.trans known) now
  | restart => cases configured

/-- While a key stays in the database, its instances only become newer. -/
theorem run_newer (sound : self.Sound) (named : self.router_id = some self_id) {operations : List Operation}
    {key : ScopedKey} {first last : SimTime}
    (chronological : (first :: operations.filterMap Operation.time ++ [last]).Pairwise (· ≤ ·))
    (lasting : ∀ done rest, operations = done ++ rest → (self.run done).database.contains key = true) {old new : StoredLsa}
    (before : self.database.get? key = some old) (after : (self.run operations).database.get? key = some new) :
    rank self_id first old ≤ rank self_id last new := by
  induction operations generalizing self first old with
  | nil =>
    rw [show (self.run []) = self from rfl,before] at after
    obtain rfl := Option.some.inj after
    exact rank_later self_id old ((List.pairwise_cons.mp chronological).1 last List.mem_cons_self)
  | cons operation rest ih =>
    have stays : (self.perform operation).database.contains key = true := lasting [operation] rest rfl
    have configured : operation.resets = false := by
      by_contra resets
      rw [perform_resets (Bool.not_eq_false _ ▸ resets)] at stays
      cases stays
    cases timed : operation.time with
    | none =>
      cases operation with
      | restart => cases configured
      | tick _ _ => cases timed
      | receive _ _ _ _ _ => cases timed
    | some now =>
      rw [List.filterMap_cons_some timed] at chronological
      obtain ⟨earliest,later⟩ := List.pairwise_cons.mp chronological
      obtain ⟨middle,held⟩ := (OrderedMap.contains_iff _ _).mp stays
      have became := perform_became sound named timed configured before
      rw [held] at became
      cases became with
      | stays _ newer _ =>
        have order := rank_later self_id old (earliest now List.mem_cons_self)
        refine (order.trans newer).trans (ih (sound.perform operation) (perform_router_id sound named configured) later ?_ held after)
        exact fun done more split => lasting (operation :: done) more (by rw [split]; rfl)

/-- Whatever a process has been through: while a key stays in the database, its instances never become older, by
    sequence number, checksum and MaxAge. One operation replaces an instance by one that is no older, an own body by
    one that is wanted, and removes only what has been at MaxAge for five seconds while all exchanges are at rest,
    unless it resets the process. -/
theorem database_progress (earlier : List Operation) {self_id : Ipv4Addr}
    (named : (default.run earlier).router_id = some self_id) (key : ScopedKey) :
    (∀ operation now old, operation.time = some now → operation.resets = false →
      (default.run earlier).database.get? key = some old →
        Became self_id now key ((default.run earlier).Wants operation self_id key) (default.run (earlier ++ [operation])) old
          ((default.run (earlier ++ [operation])).database.get? key)) ∧
      ∀ later first last, (first :: later.filterMap Operation.time ++ [last]).Pairwise (· ≤ ·) →
        (∀ done rest, later = done ++ rest → (default.run (earlier ++ done)).database.contains key = true) →
          ∀ old new, (default.run earlier).database.get? key = some old →
            (default.run (earlier ++ later)).database.get? key = some new → rank self_id first old ≤ rank self_id last new := by
  have sound := sound_default.run earlier
  have further : ∀ operations, default.run (earlier ++ operations) = (default.run earlier).run operations :=
    fun operations => List.foldl_append
  refine ⟨fun operation now old timed configured found => ?_,fun later first last chronological lasting old new before after => ?_⟩
  · rw [further]
    exact perform_became sound named timed configured found
  · rw [further] at after
    exact run_newer sound named chronological (fun done rest split => further done ▸ lasting done rest split) before after

/-- The interface costs more than before. -/
def dearer : Settings := {stub with policy _ := ⟨2,1,10,40,.Broadcast⟩}

/-- The interface is gone. -/
def unplugged : Settings := {stub with network := ⟨∅,∅,∅,[]⟩}

/-- The key of the router's own advertisement. -/
abbrev own_key : ScopedKey := toLex (0,⟨.Router,1,1⟩)

def cheap_lsa : StoredLsa := ⟨⟨0,2,1,1,LSA_INITIAL_SEQUENCE,.Router 0 [⟨0x0a000000,mask_of 26,.Stub,1⟩]⟩,0⟩
def dear_lsa : StoredLsa := ⟨⟨0,2,1,1,LSA_INITIAL_SEQUENCE + 1,.Router 0 [⟨0x0a000000,mask_of 26,.Stub,2⟩]⟩,1000000⟩
def aged_lsa : StoredLsa := ⟨{dear_lsa.lsa with age := LSA_MAX_AGE},2000000⟩

/-- The router's own instance is replaced when the cost changes, aged out when the interface goes, and removed five
    seconds later. -/
theorem database_progress_removed :
    Became 1 1000000 own_key ((default.run [.tick stub 0]).Wants (.tick dearer 1000000) 1 own_key)
      (default.run [.tick stub 0,.tick dearer 1000000]) cheap_lsa (some dear_lsa) ∧
    Became 1 7000000 own_key
      ((default.run [.tick stub 0,.tick dearer 1000000,.tick unplugged 2000000]).Wants (.tick unplugged 7000000) 1 own_key)
      (default.run [.tick stub 0,.tick dearer 1000000,.tick unplugged 2000000,.tick unplugged 7000000]) aged_lsa none ∧
    rank 1 0 cheap_lsa ≤ rank 1 2000000 aged_lsa := by
  have cheap : (default.run [.tick stub 0]).database.get? own_key = some cheap_lsa := by decide +kernel
  have dear : (default.run [.tick stub 0,.tick dearer 1000000]).database.get? own_key = some dear_lsa := by decide +kernel
  have aged : (default.run [.tick stub 0,.tick dearer 1000000,.tick unplugged 2000000]).database.get? own_key =
      some aged_lsa := by
    decide +kernel
  have gone : (default.run [.tick stub 0,.tick dearer 1000000,.tick unplugged 2000000,.tick unplugged 7000000]).database.get?
      own_key = none := by decide +kernel
  have named : (default.run [.tick stub 0]).router_id = some 1 := by decide +kernel
  have still : (default.run [.tick stub 0,.tick dearer 1000000,.tick unplugged 2000000]).router_id = some 1 := by
    decide +kernel
  obtain ⟨steps,newer⟩ := database_progress [.tick stub 0] named own_key
  have replaced := steps (.tick dearer 1000000) 1000000 cheap_lsa rfl rfl cheap
  have removed := (database_progress [.tick stub 0,.tick dearer 1000000,.tick unplugged 2000000] still own_key).1
    (.tick unplugged 7000000) 7000000 aged_lsa rfl rfl aged
  refine ⟨dear ▸ replaced,gone ▸ removed,?_⟩
  refine newer [.tick dearer 1000000,.tick unplugged 2000000] 0 2000000 (by decide) (fun done rest split => ?_) _ _ cheap aged
  rw [OrderedMap.contains_iff]
  obtain rfl | rfl | rfl : done = [] ∨ done = [.tick dearer 1000000] ∨
      done = [.tick dearer 1000000,.tick unplugged 2000000] := by
    rcases done with _ | ⟨first,_ | ⟨second,_ | ⟨third,done⟩⟩⟩ <;> simp_all
  · exact ⟨_,cheap⟩
  · exact ⟨_,dear⟩
  · exact ⟨_,aged⟩

end OspfRuntime
end Rios.OspfDevice
