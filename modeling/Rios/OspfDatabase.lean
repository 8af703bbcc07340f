import Rios.BoundedMap
import Rios.OspfDevice
import Rios.OspfNormalForm

/-!
# The link-state database of a process

What origination and installation leave in the database, key by key, and what no
run can undo: an instance gives way only to a newer one, and disappears only when
it is old and every neighbour knows it.
-/

namespace Rios.Ospf.Lsa
open Rios.Device Rios.Wire

/-- The check bytes do not depend on the age. -/
theorem check_bytes_age (header : LsaHeader) (age : UInt16) (body : List UInt8) :
    check_bytes (({header with age := age} : LsaHeader).encode ++ body) = check_bytes (header.encode ++ body) := by
  have tail : (({header with age := age} : LsaHeader).encode ++ body).drop 2 = (header.encode ++ body).drop 2 := rfl
  rw [check_bytes,check_bytes,tail,List.length_append,List.length_append,LsaHeader.encode_length,LsaHeader.encode_length]

theorem checksum_eq {lsa : Lsa} {body : List UInt8} (written : lsa.body.encode = .ok body) :
    lsa.checksum = from_be16 (check_bytes ((lsa.unchecked (20 + body.length)).encode ++ body)).1
      (check_bytes ((lsa.unchecked (20 + body.length)).encode ++ body)).2 := by
  rw [← check_bytes_age (lsa.unchecked (20 + body.length)) 0 body,checksum,written]
  rfl

/-- A header repeats the fields of its advertisement. -/
theorem header_fields {lsa : Lsa} {header : LsaHeader} (read : lsa.header = .ok header) :
    header.age = lsa.age ∧ header.sequence = lsa.sequence ∧ header.checksum = lsa.checksum ∧ lsa.age ≤ LSA_MAX_AGE := by
  unfold Lsa.header at read
  cases encoded : lsa.encode with
  | error _ =>
    rw [encoded] at read
    cases read
  | ok bytes =>
    rw [encoded] at read
    have read : LsaHeader.decode bytes = .ok header := read
    obtain ⟨young,valid,body,written,short,rfl⟩ := encode_eq_ok.mp encoded
    have long : (20 : UInt16) ≤ UInt16.ofNat (20 + body.length) := by
      rw [UInt16.le_iff_toNat_le,UInt16.toNat_ofNat_of_lt' (by simp only [UInt16.size]; omega)]
      exact Nat.le_add_right 20 _
    rw [insert_checksum_encode,decode_encode young valid long] at read
    obtain rfl := Except.ok.inj read
    refine ⟨rfl,rfl,?_⟩
    exact ⟨(checksum_eq written).symm,young⟩

end Rios.Ospf.Lsa

namespace Rios.OspfDevice
open Rios.Machine Rios.Device Rios.Queue Rios.Ospf Rios.OspfSpf
open Rios.Routing (Surroundings Route)
open BoundedMap (put puts)

/-! ### Ages -/

namespace StoredLsa

theorem current_age (self : StoredLsa) (now : SimTime) : (self.current now).age.toNat =
    min (self.lsa.age.toNat + (now.toNat - self.installed.toNat) / 1000000) 3600 := by
  rw [current,show LSA_MAX_AGE.toNat = 3600 from rfl,UInt16.toNat_ofNat_of_lt']
  exact (min_le_right _ _).trans_lt (by decide)

/-- A MaxAge instance stays one. -/
theorem current_max {self : StoredLsa} (aged : self.lsa.age = LSA_MAX_AGE) (now : SimTime) :
    (self.current now).age = LSA_MAX_AGE := by
  apply UInt16.toNat.inj
  rw [current_age,aged,show LSA_MAX_AGE.toNat = 3600 from rfl]
  exact min_eq_right (Nat.le_add_right _ _)

/-- Ages only grow. -/
theorem current_max_later {self : StoredLsa} {now later : SimTime} (order : now ≤ later)
    (aged : (self.current now).age = LSA_MAX_AGE) : (self.current later).age = LSA_MAX_AGE := by
  have old := congrArg UInt16.toNat aged
  rw [current_age,show LSA_MAX_AGE.toNat = 3600 from rfl] at old
  apply UInt16.toNat.inj
  rw [current_age,show LSA_MAX_AGE.toNat = 3600 from rfl]
  have order := UInt64.le_iff_toNat_le.mp order
  omega

/-- What is current for less than half an hour is not MaxAge. -/
theorem young {self : StoredLsa} {now : SimTime} (recent : (self.current now).age < 1800) :
    self.lsa.age ≠ LSA_MAX_AGE ∧ (self.current now).age ≠ LSA_MAX_AGE := by
  have current : (self.current now).age ≠ LSA_MAX_AGE := by
    rintro aged
    rw [aged] at recent
    exact absurd recent (by decide)
  exact ⟨fun aged => current (current_max aged now),current⟩

/-- What is stored now has the age that it was stored with. -/
theorem current_now {lsa : Lsa} (valid : lsa.age ≤ LSA_MAX_AGE) (now : SimTime) :
    (StoredLsa.current ⟨lsa,now⟩ now).age = lsa.age := by
  have valid := UInt16.le_iff_toNat_le.mp valid
  rw [show LSA_MAX_AGE.toNat = 3600 from rfl] at valid
  apply UInt16.toNat.inj
  rw [current_age]
  simp only [Nat.sub_self,Nat.zero_div,Nat.add_zero]
  exact min_eq_left valid

end StoredLsa

/-! ### What does not touch the database -/

namespace OspfRuntime

variable {settings : Settings} {self : OspfRuntime} {now : SimTime}

/-- The database and the identity of a process are those of another. -/
structure SameStore (before after : OspfRuntime) : Prop where
  database : after.database = before.database
  router_id : after.router_id = before.router_id

namespace SameStore

theorem refl (self : OspfRuntime) : SameStore self self := ⟨rfl,rfl⟩

theorem trans {first second third : OspfRuntime} (before : SameStore first second) (after : SameStore second third) :
    SameStore first third := ⟨after.database.trans before.database,after.router_id.trans before.router_id⟩

end SameStore

theorem adjoin_store (self_id : Ipv4Addr) (id : InterfaceId) (runtime : InterfaceRuntime) (mtu : UInt16)
    (database : OrderedMap LsaKey Lsa) (now : SimTime) (self : OspfRuntime) (key : NeighborKey) :
    SameStore self (adjoin self_id id runtime mtu database now self key).1 := by
  unfold adjoin
  split
  · exact .refl self
  · split
    · exact .refl self
    · split
      · split
        · exact .refl self
        · exact ⟨rfl,rfl⟩
      · exact ⟨rfl,rfl⟩

theorem adjoin_all_store (self_id : Ipv4Addr) (id : InterfaceId) (runtime : InterfaceRuntime) (mtu : UInt16)
    (database : OrderedMap LsaKey Lsa) (now : SimTime) (self : OspfRuntime) (keys : List NeighborKey) :
    SameStore self (adjoin_all self_id id runtime mtu database now self keys).1 := by
  induction keys generalizing self with
  | nil => exact .refl self
  | cons key rest ih => exact (adjoin_store self_id id runtime mtu database now self key).trans (ih _)

theorem elect_interface_store (settings : Settings) (self_id : Ipv4Addr) (now : SimTime) (self : OspfRuntime)
    (id : InterfaceId) :
    SameStore self (elect_interface settings self_id now self id).1 := by
  unfold elect_interface
  split
  · exact .refl self
  · split
    · exact .refl self
    · dsimp only
      refine SameStore.trans ?_ (adjoin_all_store _ _ _ _ _ _ _ _)
      exact ⟨rfl,rfl⟩

theorem elect_all_store (settings : Settings) (self_id : Ipv4Addr) (now : SimTime) (self : OspfRuntime)
    (ids : List InterfaceId) :
    SameStore self (elect_all settings self_id now self ids).1 := by
  induction ids generalizing self with
  | nil => exact .refl self
  | cons id rest ih => exact (elect_interface_store settings self_id now self id).trans (ih _)

theorem elect_store (settings : Settings) (self : OspfRuntime) (now : SimTime) :
    SameStore self (self.ospf_elect settings now).1 := by
  unfold ospf_elect
  split
  · exact .refl self
  · exact elect_all_store _ _ _ _ _

theorem prepare_interface_store (settings : Settings) (now : SimTime) (self : OspfRuntime) (active : ActiveInterface) :
    SameStore self (self.prepare_interface settings now active) := by
  unfold prepare_interface
  split
  · split <;> exact ⟨rfl,rfl⟩
  · exact ⟨rfl,rfl⟩

theorem prepare_interfaces_store (settings : Settings) (now : SimTime) (self : OspfRuntime)
    (actives : List ActiveInterface) :
    SameStore self (actives.foldl (prepare_interface settings now) self) := by
  induction actives generalizing self with
  | nil => exact .refl self
  | cons active rest ih => exact (prepare_interface_store settings now self active).trans (ih _)

/-- Preparation starts over without a configuration, and otherwise settles the identity. -/
theorem prepare_cases (settings : Settings) (self : OspfRuntime) (now : SimTime) :
    settings.config = none ∧ self.ospf_prepare settings now = default ∨
      ∃ config, settings.config = some config ∧ (self.ospf_prepare settings now).database = self.database ∧
        (self.ospf_prepare settings now).router_id = (self.router_id <|> config.router_id <|> highest_address settings) := by
  unfold ospf_prepare
  cases configured : settings.config with
  | none => exact .inl ⟨rfl,rfl⟩
  | some config =>
    have same := prepare_interfaces_store settings now
      { self with
        router_id := self.router_id <|> config.router_id <|> highest_address settings,
        interfaces := self.interfaces.retain (fun id _ => (settings.speaking.map (·.id)).contains id) } settings.speaking
    exact .inr ⟨config,rfl,same.database,same.router_id⟩

/-- Nothing of a tick but its origination touches the database. -/
theorem tick_store (settings : Settings) (self : OspfRuntime) (now : SimTime) :
    SameStore (((self.ospf_prepare settings now).ospf_elect settings now).1.ospf_originate settings now).1
      (self.ospf_tick settings now).1 := by
  unfold ospf_tick
  dsimp only
  split
  · exact .refl _
  · unfold recompute_ospf_routes
    split <;> exact ⟨rfl,rfl⟩

/-! ### What a router wants to have originated -/

/-- Every desired advertisement stands under its own identity, is the router's own, and is new. -/
def Own (self_id : Ipv4Addr) (desired : Desired) : Prop :=
  ∀ key lsa, desired.get? key = some lsa →
    scoped_key (ofLex key).1 lsa = key ∧ lsa.advertising_router = self_id ∧ lsa.age = 0

variable {self_id : Ipv4Addr} {desired : Desired}

theorem own_empty (self_id : Ipv4Addr) : Own self_id ∅ := by
  intro key lsa found
  cases found

variable {lsa : Lsa}

theorem Own.insert (own : Own self_id desired) (area : UInt32) (router : lsa.advertising_router = self_id)
    (new : lsa.age = 0) : Own self_id (desired.insert (scoped_key area lsa) lsa) := by
  intro key other found
  rw [OrderedMap.get?_insert] at found
  by_cases same : key = scoped_key area lsa
  · rw [if_pos same] at found
    cases found
    rw [same]
    exact ⟨rfl,router,new⟩
  · rw [if_neg same] at found
    exact own key other found

theorem Own.insert_prefix (own : Own self_id desired) (area : UInt32) (network : Ipv4Network)
    (router : lsa.advertising_router = self_id) (new : lsa.age = 0) :
    Own self_id (insert_prefix_lsa area network lsa desired) := by
  unfold insert_prefix_lsa
  split
  · exact own.insert area router new
  · exact own

theorem Own.foldl {α : Type} (own : Own self_id desired) (step : Desired → α → Desired) (items : List α)
    (keeps : ∀ desired item, Own self_id desired → Own self_id (step desired item)) :
    Own self_id (items.foldl step desired) :=
  List.foldlRecOn items step own (fun desired own item _ => keeps desired item own)

theorem own_external (policy : Option OspfPolicy) (table : Routing.RoutingTable) (self_id : Ipv4Addr) :
    Own self_id (ospf_external_lsas policy table self_id) := by
  unfold ospf_external_lsas
  split
  · exact own_empty self_id
  · exact (own_empty self_id).foldl _ _ (fun desired entry own => own.insert_prefix 0 entry.1 rfl rfl)

theorem Own.area (own : Own self_id desired) (settings : Settings) (self : OspfRuntime) (external : Bool) (area : UInt32) :
    Own self_id (self.desire_area settings self_id external desired area) := by
  unfold desire_area
  refine List.foldlRecOn _ _ own (fun desired own lsa member => ?_)
  have made : lsa.advertising_router = self_id ∧ lsa.age = 0 := by
    rcases List.mem_append.mp member with segment | router
    · obtain ⟨active,-,rfl⟩ := List.mem_map.mp segment
      exact ⟨rfl,rfl⟩
    · rw [List.mem_singleton.mp router]
      exact ⟨rfl,rfl⟩
  exact own.insert area made.1 made.2

theorem Own.summaries (own : Own self_id desired) (areas : List UInt32) (database : UInt32 → OrderedMap LsaKey Lsa) :
    Own self_id (ospf_summaries self_id areas database desired) := by
  unfold ospf_summaries
  split
  · exact own
  · refine own.foldl _ _ (fun desired area own => ?_)
    refine Own.foldl (own.foldl _ _ (fun desired entry own => ?_)) _ _ (fun desired entry own => ?_)
    · split
      · exact own
      · exact own.insert_prefix area entry.1 rfl rfl
    · split
      · exact own
      · exact own.insert area rfl rfl

theorem own_desired (settings : Settings) (self : OspfRuntime) (self_id : Ipv4Addr) (now : SimTime) :
    Own self_id (self.ospf_desired settings self_id now) :=
  ((own_external _ _ self_id).foldl _ _ (fun _ area own => own.area settings self _ area)).summaries _ _

/-! ### One origination -/

/-- Every instance is stored under its own identity, its age is one that can be sent, and there are not too many. -/
structure Sound (runtime : OspfRuntime) : Prop where
  keyed : ∀ key stored, runtime.database.get? key = some stored → scoped_key (ofLex key).1 stored.lsa = key
  aged : ∀ key stored, runtime.database.get? key = some stored → stored.lsa.age ≤ LSA_MAX_AGE
  bounded : runtime.database.size ≤ OSPF_DATABASE_LIMIT

/-- An update as an entry of the database. -/
def entry (now : SimTime) (update : UInt32 × Lsa) : ScopedKey × StoredLsa := (scoped_key update.1 update.2,⟨update.2,now⟩)

/-- The updates are bounded insertions into the database. -/
theorem updates_database (now : SimTime) (self : OspfRuntime) (updates : List (UInt32 × Lsa)) :
    (ospf_updates now self updates).1.database = puts OSPF_DATABASE_LIMIT self.database (updates.map (entry now)) ∧
      (ospf_updates now self updates).1.router_id = self.router_id := by
  induction updates generalizing self with
  | nil => exact ⟨rfl,rfl⟩
  | cons update rest ih =>
    have first : (self.ospf_update now update).1.database = put OSPF_DATABASE_LIMIT self.database (entry now update) ∧
        (self.ospf_update now update).1.router_id = self.router_id := by
      rw [ospf_update,put]
      by_cases full : (!self.database.contains (scoped_key update.1 update.2) &&
          OSPF_DATABASE_LIMIT ≤ self.database.size) = true
      · rw [if_pos full]
        exact ⟨(if_pos full).symm,rfl⟩
      · rw [if_neg full]
        exact ⟨(if_neg full).symm,rfl⟩
    obtain ⟨database,router_id⟩ := ih (self.ospf_update now update).1
    exact ⟨database.trans (by rw [first.1]; rfl),router_id.trans first.2⟩

/-- The smaller desired keys that the database lacks. -/
def lacking (self : OspfRuntime) (desired : Desired) (key : ScopedKey) : Nat :=
  (desired.keys.filter (fun other => other < key && !self.database.contains other)).length

/-- What the updates of an origination leave under a key: an age-out overrides a refresh of the same pass. -/
def outcome (self : OspfRuntime) (self_id : Ipv4Addr) (desired : Desired) (now : SimTime) (key : ScopedKey) :
    Option StoredLsa :=
  match self.database.get? key with
  | some old =>
    match flush self_id desired now (key,old) with
    | some update => some ⟨update.2,now⟩
    | none =>
      match (desired.get? key).bind (fun lsa => self.refresh now (key,lsa)) with
      | some update => some ⟨update.2,now⟩
      | none => some old
  | none =>
    (desired.get? key).bind (fun lsa =>
      if self.database.size + self.lacking desired key < OSPF_DATABASE_LIMIT then some ⟨lsa,now⟩ else none)

variable {key : ScopedKey}

theorem refresh_key (sound : self.Sound) (stands : scoped_key (ofLex key).1 lsa = key) {update : UInt32 × Lsa}
    (made : self.refresh now (key,lsa) = some update) : scoped_key update.1 update.2 = key := by
  unfold refresh at made
  dsimp only at made
  split at made
  · cases made
    exact stands
  · rename_i old found
    split at made
    · cases made
    split at made
    · split at made
      · cases made
      · cases made
        exact sound.keyed key old found
    · cases made
      exact stands

theorem flush_key {old : StoredLsa} (stands : scoped_key (ofLex key).1 old.lsa = key) {update : UInt32 × Lsa}
    (made : flush self_id desired now (key,old) = some update) :
    scoped_key update.1 update.2 = key := by
  unfold flush at made
  split at made
  · cases made
  · split at made
    · cases made
      exact stands
    · cases made

theorem refresh_new (unknown : self.database.get? key = none) (now : SimTime) (lsa : Lsa) :
    self.refresh now (key,lsa) = some ((ofLex key).1,lsa) := by
  unfold refresh
  rw [unknown]

/-- The updates of an origination as entries. -/
theorem updates_entries (self : OspfRuntime) (self_id : Ipv4Addr) (desired : Desired) (now : SimTime) :
    (desired.entries.filterMap (self.refresh now) ++ self.database.entries.filterMap (flush self_id desired now)).map (entry now) =
      desired.entries.filterMap (fun item => (self.refresh now item).map (entry now)) ++
        self.database.entries.filterMap (fun item => (flush self_id desired now item).map (entry now)) := by
  rw [List.map_append,List.map_filterMap,List.map_filterMap]

/-- The new entries made for some desired ones are those that the database lacks. -/
theorem news_refreshed (sound : self.Sound) {items : List (ScopedKey × Lsa)}
    (stand : ∀ item ∈ items, scoped_key (ofLex item.1).1 item.2 = item.1) :
    BoundedMap.news self.database (items.filterMap (fun item => (self.refresh now item).map (entry now))) =
      ((items.map (·.1)).filter (fun other => !self.database.contains other)).length := by
  unfold BoundedMap.news
  induction items with
  | nil => rfl
  | cons item rest ih =>
    obtain ⟨here,later⟩ := List.forall_mem_cons.mp stand
    have rest_equal := ih later
    cases known : self.database.contains item.1 with
    | false =>
      have made : (self.refresh now item).map (entry now) = some (item.1,⟨item.2,now⟩) := by
        rw [refresh_new (BoundedMap.contains_eq_false.mp known),Option.map_some,entry,here]
      rw [@List.filterMap_cons_some _ _ (fun item => (self.refresh now item).map (entry now)) item _ _ made,
        List.filter_cons_of_pos (by rw [known]; rfl),List.map_cons,
        List.filter_cons_of_pos (by rw [known]; rfl),List.length_cons,List.length_cons,rest_equal]
    | true =>
      rw [List.map_cons,List.filter_cons_of_neg (by rw [known]; exact Bool.false_ne_true)]
      cases made : self.refresh now item with
      | none => rw [List.filterMap_cons_none (by rw [made]; rfl),rest_equal]
      | some update =>
        have key := refresh_key sound here made
        rw [@List.filterMap_cons_some _ _ _ item _ (entry now update) (by rw [made]; rfl),
          List.filter_cons_of_neg (by rw [entry,key,known]; exact Bool.false_ne_true),rest_equal]

theorem Own.stands (own : Own self_id desired) : ∀ item ∈ desired.entries, scoped_key (ofLex item.1).1 item.2 = item.1 :=
  fun item member => (own item.1 item.2 ((OrderedMap.get?_eq_some _ _ _).mpr member)).1

/-- A refresh is an entry at the key of its advertisement. -/
theorem refreshed_key (sound : self.Sound) (own : Own self_id desired) (now : SimTime) : ∀ item ∈ desired.entries, ∀ pair,
    (self.refresh now item).map (entry now) = some pair → pair.1 = item.1 := by
  intro item member pair made
  obtain ⟨update,renewed,rfl⟩ := Option.map_eq_some_iff.mp made
  exact refresh_key sound (own.stands item member) renewed

/-- A flush is an entry at the key of its instance. -/
theorem flushed_key (sound : self.Sound) (self_id : Ipv4Addr) (desired : Desired) (now : SimTime) :
    ∀ item ∈ self.database.entries, ∀ pair, (flush self_id desired now item).map (entry now) = some pair →
        pair.1 = item.1 := by
  intro item member pair made
  obtain ⟨update,aging,rfl⟩ := Option.map_eq_some_iff.mp made
  exact flush_key (sound.keyed item.1 item.2 ((OrderedMap.get?_eq_some _ _ _).mpr member)) aging

/-- The desired keys below one that the database lacks are the new entries in front of it. -/
theorem lacking_news (sound : self.Sound) (own : Own self_id desired) (now : SimTime)
    {smaller larger : List (ScopedKey × Lsa)} (split : desired.entries = smaller ++ (key,lsa) :: larger)
    (below : ∀ item ∈ smaller, item.1 < key) (above : ∀ item ∈ larger, key < item.1) : self.lacking desired key =
      BoundedMap.news self.database (smaller.filterMap (fun item => (self.refresh now item).map (entry now))) := by
  have stands : ∀ item ∈ smaller, scoped_key (ofLex item.1).1 item.2 = item.1 :=
    fun item member => own.stands item (by rw [split]; exact List.mem_append_left _ member)
  have none_above : (larger.map (·.1)).filter (fun other => other < key && !self.database.contains other) = [] := by
    refine List.filter_eq_nil_iff.mpr fun other member => ?_
    obtain ⟨item,listed,rfl⟩ := List.mem_map.mp member
    rw [decide_eq_false (not_lt.mpr (above item listed).le)]
    exact Bool.false_ne_true
  rw [news_refreshed sound stands,lacking,OrderedMap.keys,split,List.map_append,List.map_cons,List.filter_append,
    List.filter_cons_of_neg (by simp),none_above,List.append_nil]
  refine congrArg List.length (List.filter_congr fun other member => ?_)
  obtain ⟨item,listed,rfl⟩ := List.mem_map.mp member
  rw [decide_eq_true (below item listed),Bool.true_and]

/-- The updates of an origination at a key that the database lacks. -/
theorem updated_absent (sound : self.Sound) (own : Own self_id desired) (now : SimTime)
    (found : self.database.get? key = none) :
    (BoundedMap.puts OSPF_DATABASE_LIMIT self.database
      (desired.entries.filterMap (fun item => (self.refresh now item).map (entry now)) ++
        self.database.entries.filterMap (fun item => (flush self_id desired now item).map (entry now)))).get? key =
      self.outcome self_id desired now key := by
  have aged_absent := BoundedMap.made_absent (flushed_key sound self_id desired now)
    (fun held here => by rw [found] at here; cases here)
  cases wanted : desired.get? key with
  | none =>
    have absent := BoundedMap.made_absent (refreshed_key sound own now) (fun held here => by rw [wanted] at here; cases here)
    rw [BoundedMap.get?_puts_absent,found]
    · simp only [outcome,found,wanted,Option.bind_none]
    · exact fun pair member => (List.mem_append.mp member).elim (absent pair) (aged_absent pair)
  | some lsa =>
    have stands := own.stands (key,lsa) ((OrderedMap.get?_eq_some _ _ _).mp wanted)
    have made : (self.refresh now (key,lsa)).map (entry now) = some (key,⟨lsa,now⟩) := by
      rw [refresh_new found,Option.map_some,entry,stands]
    obtain ⟨smaller,larger,split,pairs,before,after,distinct,below,above⟩ :=
      BoundedMap.made_split (refreshed_key sound own now) wanted made
    rw [pairs,List.append_assoc,List.cons_append,
      BoundedMap.get?_puts_new sound.bounded distinct found before
        (fun pair member => (List.mem_append.mp member).elim (after pair) (aged_absent pair))]
    simp only [outcome,found,wanted,Option.bind_some,lacking_news sound own now split below above]

/-- The updates of an origination at a key of the database: a flush comes behind a refresh. -/
theorem updated_known (sound : self.Sound) (own : Own self_id desired) (now : SimTime) {old : StoredLsa}
    (found : self.database.get? key = some old) :
    (BoundedMap.puts OSPF_DATABASE_LIMIT self.database
      (desired.entries.filterMap (fun item => (self.refresh now item).map (entry now)) ++
        self.database.entries.filterMap (fun item => (flush self_id desired now item).map (entry now)))).get? key =
      self.outcome self_id desired now key := by
  have known := BoundedMap.contains_of_get? found
  cases aging : flush self_id desired now (key,old) with
  | some update =>
    have stands := flush_key (sound.keyed key old found) aging
    have made : (flush self_id desired now (key,old)).map (entry now) = some (key,⟨update.2,now⟩) := by
      rw [aging,Option.map_some,entry,stands]
    obtain ⟨smaller,larger,-,pairs,-,after,-⟩ := BoundedMap.made_split (flushed_key sound self_id desired now) found made
    rw [pairs,← List.append_assoc,BoundedMap.get?_puts_last known after]
    simp only [outcome,found,aging]
  | none =>
    have aged_absent := BoundedMap.made_absent (flushed_key sound self_id desired now)
      (fun held (here : self.database.get? key = some held) => by
        rw [found] at here
        cases here
        rw [aging]
        rfl)
    cases renewal : (desired.get? key).bind (fun lsa => self.refresh now (key,lsa)) with
    | some update =>
      obtain ⟨lsa,wanted,renewed⟩ := Option.bind_eq_some_iff.mp renewal
      have stands := refresh_key sound (own.stands (key,lsa) ((OrderedMap.get?_eq_some _ _ _).mp wanted)) renewed
      have made : (self.refresh now (key,lsa)).map (entry now) = some (key,⟨update.2,now⟩) := by
        rw [renewed,Option.map_some,entry,stands]
      obtain ⟨smaller,larger,-,pairs,-,after,-⟩ := BoundedMap.made_split (refreshed_key sound own now) wanted made
      rw [pairs,List.append_assoc,List.cons_append,BoundedMap.get?_puts_last known
        (fun pair member => (List.mem_append.mp member).elim (after pair) (aged_absent pair))]
      simp only [outcome,found,aging,renewal]
    | none =>
      have absent := BoundedMap.made_absent (refreshed_key sound own now)
          (fun lsa (wanted : desired.get? key = some lsa) => by
        rw [wanted,Option.bind_some] at renewal
        rw [renewal]
        rfl)
      rw [BoundedMap.get?_puts_absent,found]
      · simp only [outcome,found,aging,renewal]
      · exact fun pair member => (List.mem_append.mp member).elim (absent pair) (aged_absent pair)

/-- The database after the updates of an origination, key by key. -/
theorem updated_outcome (sound : self.Sound) (own : Own self_id desired) (now : SimTime) (key : ScopedKey) :
    (ospf_updates now self (desired.entries.filterMap (self.refresh now) ++
      self.database.entries.filterMap (flush self_id desired now))).1.database.get? key =
        self.outcome self_id desired now key := by
  rw [(updates_database _ _ _).1,updates_entries]
  cases found : self.database.get? key with
  | none => exact updated_absent sound own now found
  | some old => exact updated_known sound own now found

/-- A drained process keeps or drops an instance, any other one keeps it. -/
theorem remove_aged_lookup (self : OspfRuntime) (now : SimTime) (key : ScopedKey) :
    (self.remove_aged now).database.get? key = self.database.get? key ∨
      (self.remove_aged now).database.get? key = none ∧ (self.remove_aged now).drained = true ∧
        ∃ stored, self.database.get? key = some stored ∧ stored.lsa.age = LSA_MAX_AGE ∧
          5000000 ≤ now.toNat - stored.installed.toNat := by
  unfold remove_aged
  by_cases quiet : self.drained = true
  · rw [if_pos quiet,OrderedMap.get?_retain]
    cases found : self.database.get? key with
    | none => exact .inl rfl
    | some stored =>
      by_cases keeps : (stored.lsa.age ≠ LSA_MAX_AGE || now.toNat - stored.installed.toNat < 5000000) = true
      · exact .inl (Option.filter_some_pos keeps)
      · refine .inr ⟨Option.filter_some_neg (Bool.not_eq_true _ ▸ keeps),quiet,stored,rfl,?_⟩
        simpa using keeps
  · rw [if_neg quiet]
    exact .inl rfl

/-- The database after an origination, key by key. -/
theorem originated_lookup (sound : self.Sound) (named : self.router_id = some self_id) (settings : Settings) (now : SimTime)
    (key : ScopedKey) :
    (self.ospf_originate settings now).1.database.get? key =
        self.outcome self_id (self.ospf_desired settings self_id now) now key ∨
      (self.ospf_originate settings now).1.database.get? key = none ∧ (self.ospf_originate settings now).1.drained = true ∧
        ∃ stored, self.outcome self_id (self.ospf_desired settings self_id now) now key = some stored ∧
          stored.lsa.age = LSA_MAX_AGE ∧ 5000000 ≤ now.toNat - stored.installed.toNat := by
  unfold ospf_originate
  rw [named]
  dsimp only
  rw [← updated_outcome sound (own_desired settings self self_id now) now key]
  exact remove_aged_lookup _ now key

/-- An instance with a body that is neither MaxAge nor due for a refresh. -/
def Fresh (now : SimTime) (body : LsaBody) (held : Option StoredLsa) : Prop :=
  ∃ stored, held = some stored ∧ stored.lsa.body = body ∧ stored.lsa.age ≠ LSA_MAX_AGE ∧ (stored.current now).age < 1800

/-- Whether an origination can bring a desired advertisement up to date: a new one finds room, and a stored one will do,
    or has a sequence number left and has not reached MaxAge since it was stored. -/
def renewable (self : OspfRuntime) (desired : Desired) (now : SimTime) (key : ScopedKey) (lsa : Lsa) : Bool :=
  match self.database.get? key with
  | none => self.database.size + self.lacking desired key < OSPF_DATABASE_LIMIT
  | some old =>
    (old.lsa.body = lsa.body && (old.current now).age < 1800) ||
      (old.lsa.sequence ≠ Int32.maxValue && (old.lsa.age = LSA_MAX_AGE || (old.current now).age ≠ LSA_MAX_AGE))

theorem fresh_new (new : lsa.age = 0) (sequence : Int32) (now : SimTime) :
    Fresh now lsa.body (some ⟨{lsa with sequence := sequence},now⟩) := by
  refine ⟨_,rfl,rfl,by rw [new]; decide,?_⟩
  rw [StoredLsa.current_now (by rw [new]; decide),new]
  decide

/-- Nothing fresh is left where an instance is MaxAge. -/
theorem not_fresh {now : SimTime} {body : LsaBody} {stored : StoredLsa} (aged : stored.lsa.age = LSA_MAX_AGE) :
    ¬Fresh now body (some stored) := by
  rintro ⟨other,same,-,young,-⟩
  exact young (Option.some.inj same ▸ aged)

/-- Whether a stored instance will do for a desired one. -/
def Serves (now : SimTime) (old : StoredLsa) (lsa : Lsa) : Prop := old.lsa.body = lsa.body ∧ (old.current now).age < 1800

instance (now : SimTime) (old : StoredLsa) (lsa : Lsa) : Decidable (Serves now old lsa) :=
  inferInstanceAs (Decidable (old.lsa.body = lsa.body ∧ (old.current now).age < 1800))

theorem refresh_known {old : StoredLsa} (found : self.database.get? key = some old) (now : SimTime) (lsa : Lsa) :
    self.refresh now (key,lsa) =
      if Serves now old lsa then none
      else if old.lsa.sequence = Int32.maxValue then
        if old.lsa.age = LSA_MAX_AGE then none else some ((ofLex key).1,{old.current now with age := LSA_MAX_AGE})
      else some ((ofLex key).1,{lsa with sequence := old.lsa.sequence + 1}) := by
  unfold refresh
  rw [found]
  rfl

/-- What an origination can make of a stored instance. -/
inductive Left (self_id : Ipv4Addr) (desired : Desired) (now : SimTime) (key : ScopedKey) (old : StoredLsa) :
    StoredLsa → Prop where
  | kept (current : old.lsa.age = LSA_MAX_AGE ∨ (old.current now).age ≠ LSA_MAX_AGE ∧
        ((ofLex key).2.advertising_router = self_id → desired.contains key = true))
      (serves : ∀ lsa, desired.get? key = some lsa → Serves now old lsa ∨
        old.lsa.sequence = Int32.maxValue ∧ old.lsa.age = LSA_MAX_AGE) : Left self_id desired now key old old
  | aged_out (alive : old.lsa.age ≠ LSA_MAX_AGE)
      (ends : (old.current now).age = LSA_MAX_AGE ∨ desired.get? key = none ∨
        old.lsa.sequence = Int32.maxValue ∧ ∀ lsa, desired.get? key = some lsa → ¬Serves now old lsa) :
      Left self_id desired now key old ⟨{old.current now with age := LSA_MAX_AGE},now⟩
  | renewed (lsa : Lsa) (wanted : desired.get? key = some lsa) (due : ¬Serves now old lsa) (more : old.lsa.sequence ≠ Int32.maxValue)
      (current : old.lsa.age = LSA_MAX_AGE ∨ (old.current now).age ≠ LSA_MAX_AGE) :
      Left self_id desired now key old ⟨{lsa with sequence := old.lsa.sequence + 1},now⟩

/-- One of these becomes of every stored instance. -/
theorem outcome_left {old : StoredLsa} (found : self.database.get? key = some old) (self_id : Ipv4Addr)
    (desired : Desired) (now : SimTime) :
    ∃ left, self.outcome self_id desired now key = some left ∧ Left self_id desired now key old left := by
  unfold outcome
  rw [found]
  dsimp only
  cases aging : flush self_id desired now (key,old) with
  | some update =>
    unfold flush at aging
    dsimp only at aging
    split_ifs at aging with aged ends
    cases aging
    refine ⟨_,rfl,.aged_out aged ?_⟩
    rcases ends with ⟨-,undesired⟩ | reached
    · exact .inr (.inl (BoundedMap.contains_eq_false.mp (Bool.not_eq_true _ ▸ undesired)))
    · exact .inl reached
  | none =>
    have current : old.lsa.age = LSA_MAX_AGE ∨ (old.current now).age ≠ LSA_MAX_AGE ∧
        ((ofLex key).2.advertising_router = self_id → desired.contains key = true) := by
      unfold flush at aging
      dsimp only at aging
      split_ifs at aging with aged ends
      · exact .inl aged
      · obtain ⟨stays,young⟩ := not_or.mp ends
        exact .inr ⟨young,fun own => not_not.mp (fun undesired => stays ⟨own,undesired⟩)⟩
    cases wanted : desired.get? key with
    | none => exact ⟨old,rfl,.kept current (fun lsa here => by rw [wanted] at here; cases here)⟩
    | some lsa =>
      have only : ∀ other, desired.get? key = some other → other = lsa := by
        intro other here
        rw [wanted] at here
        exact (Option.some.inj here).symm
      rw [Option.bind_some,refresh_known found]
      by_cases serves : Serves now old lsa
      · rw [if_pos serves]
        exact ⟨old,rfl,.kept current (fun other here => .inl (only other here ▸ serves))⟩
      · rw [if_neg serves]
        by_cases last : old.lsa.sequence = Int32.maxValue
        · rw [if_pos last]
          by_cases aged : old.lsa.age = LSA_MAX_AGE
          · rw [if_pos aged]
            exact ⟨old,rfl,.kept current (fun _ _ => .inr ⟨last,aged⟩)⟩
          · rw [if_neg aged]
            exact ⟨_,rfl,.aged_out aged (.inr (.inr ⟨last,fun other here => only other here ▸ serves⟩))⟩
        · rw [if_neg last]
          exact ⟨_,rfl,.renewed lsa wanted serves last (current.imp_right (·.1))⟩

/-- A desired advertisement after the updates. -/
theorem outcome_desired (own : Own self_id desired) (wanted : desired.get? key = some lsa) (now : SimTime) :
    (self.renewable desired now key lsa = true → Fresh now lsa.body (self.outcome self_id desired now key)) ∧
      (self.renewable desired now key lsa = false →
        ∀ stored, self.outcome self_id desired now key = some stored → stored.lsa.age = LSA_MAX_AGE) := by
  obtain ⟨-,router,new⟩ := own key lsa wanted
  unfold renewable
  cases found : self.database.get? key with
  | none =>
    simp only [outcome,found,wanted,Option.bind_some,decide_eq_true_eq,decide_eq_false_iff_not]
    refine ⟨fun room => ?_,fun full stored here => ?_⟩
    · rw [if_pos room]
      exact fresh_new new lsa.sequence now
    · rw [if_neg full] at here
      cases here
  | some old =>
    obtain ⟨left,after,became⟩ := outcome_left found self_id desired now
    rw [after]
    simp only [Bool.or_eq_true,Bool.and_eq_true,decide_eq_true_eq,Bool.or_eq_false_iff,Bool.and_eq_false_iff,
      decide_eq_false_iff_not]
    cases became with
    | kept current serves =>
      rcases serves lsa wanted with serves | ⟨last,aged⟩
      · exact ⟨fun _ => ⟨old,rfl,serves.1,(StoredLsa.young serves.2).1,serves.2⟩,
          fun refused => absurd serves (not_and_or.mpr refused.1)⟩
      · refine ⟨fun renewable => ?_,fun _ stored here => Option.some.inj here ▸ aged⟩
        rcases renewable with serves | ⟨more,-⟩
        · exact absurd aged (StoredLsa.young serves.2).1
        · exact absurd last more
    | aged_out alive ends =>
      refine ⟨fun renewable => ?_,fun _ stored here => Option.some.inj here ▸ rfl⟩
      rcases ends with reached | undesired | ⟨last,due⟩
      · rcases renewable with serves | ⟨-,aged | young⟩
        · exact absurd reached (StoredLsa.young serves.2).2
        · exact absurd aged alive
        · exact absurd reached young
      · rw [wanted] at undesired
        cases undesired
      · rcases renewable with serves | ⟨more,-⟩
        · exact absurd serves (due lsa wanted)
        · exact absurd last more
    | renewed other here due more current =>
      rw [wanted] at here
      obtain rfl := Option.some.inj here
      refine ⟨fun _ => fresh_new new _ now,fun refused => ?_⟩
      rcases refused.2 with last | late
      · exact absurd more last
      · exact absurd current (not_or.mpr late)

/-- The router's own advertisements that it no longer wants are at MaxAge. -/
theorem outcome_undesired (mine : (ofLex key).2.advertising_router = self_id) (undesired : desired.get? key = none)
    (now : SimTime) {stored : StoredLsa} (after : self.outcome self_id desired now key = some stored) :
    stored.lsa.age = LSA_MAX_AGE := by
  cases found : self.database.get? key with
  | none =>
    rw [outcome,found] at after
    dsimp only at after
    rw [undesired] at after
    cases after
  | some old =>
    obtain ⟨left,here,became⟩ := outcome_left found self_id desired now
    rw [after] at here
    obtain rfl := Option.some.inj here
    cases became with
    | kept current serves =>
      rcases current with aged | ⟨-,wanted⟩
      · exact aged
      · have wanted := wanted mine
        rw [BoundedMap.contains_eq_false.mpr undesired] at wanted
        cases wanted
    | aged_out alive ends => rfl
    | renewed lsa wanted _ _ _ =>
      rw [undesired] at wanted
      cases wanted

/-! ### Runs -/

theorem Sound.same {before after : OspfRuntime} (sound : before.Sound) (same : SameStore before after) : after.Sound := by
  refine ⟨fun key stored found => ?_,fun key stored found => ?_,same.database ▸ sound.bounded⟩ <;> rw [same.database] at found
  · exact sound.keyed key stored found
  · exact sound.aged key stored found

theorem sound_default : default.Sound := by
  refine ⟨fun _ _ found => ?_,fun _ _ found => ?_,Nat.zero_le _⟩ <;> cases found

theorem size_retain_le {κ ν : Type} [LinearOrder κ] (m : OrderedMap κ ν) (keep : κ → ν → Bool) :
    (m.retain keep).size ≤ m.size :=
  List.length_filter_le _ _

/-- One value put under its own key. -/
theorem Sound.insert (sound : self.Sound) (stands : scoped_key (ofLex key).1 lsa = key) (valid : lsa.age ≤ LSA_MAX_AGE)
    (room : self.database.contains key = true ∨ self.database.size < OSPF_DATABASE_LIMIT) (now : SimTime) :
    Sound {self with database := self.database.insert key ⟨lsa,now⟩} := by
  have entries : ∀ other stored, (self.database.insert key ⟨lsa,now⟩).get? other = some stored →
      scoped_key (ofLex other).1 stored.lsa = other ∧ stored.lsa.age ≤ LSA_MAX_AGE := by
    intro other stored found
    rw [OrderedMap.get?_insert] at found
    by_cases same : other = key
    · rw [if_pos same] at found
      cases found
      exact ⟨same ▸ stands,valid⟩
    · rw [if_neg same] at found
      exact ⟨sound.keyed other stored found,sound.aged other stored found⟩
  refine ⟨fun other stored found => (entries other stored found).1,fun other stored found => (entries other stored found).2,?_⟩
  rcases room with known | room
  · exact (OrderedMap.size_insert_of_contains known _).trans sound.bounded
  · exact (OrderedMap.size_insert_le _ _ _).trans room

theorem fight_back_stands (sound : self.Sound) (stands : scoped_key (ofLex key).1 lsa = key) :
    scoped_key (ofLex key).1 (fight_back (self.database.get? key) lsa) = key ∧
      (lsa.age ≤ LSA_MAX_AGE → (fight_back (self.database.get? key) lsa).age ≤ LSA_MAX_AGE) := by
  unfold fight_back
  cases found : self.database.get? key with
  | none => exact ⟨stands,fun _ => le_rfl⟩
  | some old =>
    have kinds : old.lsa.body.kind = lsa.body.kind := by
      have same := (sound.keyed key old found).trans stands.symm
      exact congrArg LsaKey.kind (Prod.mk.inj (toLex.injective same)).2
    have named : ({lsa with body := old.lsa.body} : Lsa).key = lsa.key := congrArg (LsaKey.mk · _ _) kinds
    dsimp only
    split
    · exact ⟨(congrArg (fun named => toLex ((ofLex key).1,named)) named).trans stands,fun _ => le_rfl⟩
    · exact ⟨(congrArg (fun named => toLex ((ofLex key).1,named)) named).trans stands,fun _ => UInt16.zero_le⟩

/-- Installation either does nothing or stores one newer instance. -/
theorem install_cases (self : OspfRuntime) (area : UInt32) (lsa : Lsa) (excepted : Option NeighborKey) (now : SimTime) :
    (self.ospf_install area lsa excepted now).1 = self ∨
      ∃ header, lsa.header = .ok header ∧ self.accepts (scoped_key (scope area lsa) lsa) header now = true ∧
        SameStore
          { self with
            database := self.database.insert (scoped_key (scope area lsa) lsa)
              ⟨self.admitted (scoped_key (scope area lsa) lsa) lsa excepted,now⟩ }
          (self.ospf_install area lsa excepted now).1 := by
  unfold ospf_install
  dsimp only
  cases read : lsa.header with
  | error _ => exact .inl rfl
  | ok header =>
    dsimp only
    cases accepted : self.accepts (scoped_key (scope area lsa) lsa) header now with
    | false =>
      rw [if_pos (show (!false) = true from rfl)]
      exact .inl rfl
    | true =>
      rw [if_neg (show ¬(!true) = true from Bool.false_ne_true)]
      exact .inr ⟨header,rfl,accepted,⟨rfl,rfl⟩⟩

theorem Sound.install (sound : self.Sound) (area : UInt32) (lsa : Lsa) (excepted : Option NeighborKey) (now : SimTime) :
    (self.ospf_install area lsa excepted now).1.Sound := by
  rcases install_cases self area lsa excepted now with same | ⟨header,read,accepted,same⟩
  · rwa [same]
  · refine (sound.insert ?_ ?_ ?_ now).same same
    · unfold admitted
      split
      · exact (fight_back_stands sound rfl).1
      · rfl
    · have valid := (Lsa.header_fields read).2.2.2
      unfold admitted
      split
      · exact (fight_back_stands sound rfl).2 valid
      · exact valid
    · unfold accepts at accepted
      cases found : self.database.get? (scoped_key (scope area lsa) lsa) with
      | none =>
        rw [found] at accepted
        exact .inr (of_decide_eq_true accepted)
      | some old => exact .inl (BoundedMap.contains_of_get? found)

theorem Sound.install_all (sound : self.Sound) (area : UInt32) (excepted : Option NeighborKey) (now : SimTime)
    (lsas : List Lsa) :
    (install_all area excepted now self lsas).1.Sound := by
  induction lsas generalizing self with
  | nil => exact sound
  | cons lsa rest ih => exact ih (sound.install area lsa excepted now)

theorem Sound.prepare (sound : self.Sound) (settings : Settings) (now : SimTime) :
    (self.ospf_prepare settings now).Sound := by
  rcases prepare_cases settings self now with ⟨-,fresh⟩ | ⟨config,-,database,-⟩
  · rw [fresh]
    exact sound_default
  · refine ⟨fun key stored found => ?_,fun key stored found => ?_,database ▸ sound.bounded⟩ <;> rw [database] at found
    · exact sound.keyed key stored found
    · exact sound.aged key stored found

theorem Left.sound {old left : StoredLsa} (became : Left self_id desired now key old left) (own : Own self_id desired)
    (stands : scoped_key (ofLex key).1 old.lsa = key) (aged : old.lsa.age ≤ LSA_MAX_AGE) :
    scoped_key (ofLex key).1 left.lsa = key ∧ left.lsa.age ≤ LSA_MAX_AGE := by
  cases became with
  | kept _ _ => exact ⟨stands,aged⟩
  | aged_out _ _ => exact ⟨stands,le_rfl⟩
  | renewed lsa wanted _ _ _ =>
    obtain ⟨named,-,new⟩ := own key lsa wanted
    exact ⟨named,by rw [new]; exact UInt16.zero_le⟩

theorem Sound.originate (sound : self.Sound) (settings : Settings) (now : SimTime) :
    (self.ospf_originate settings now).1.Sound := by
  cases named : self.router_id with
  | none =>
    rw [ospf_originate,named]
    exact sound
  | some self_id =>
    have own := own_desired settings self self_id now
    have entries : ∀ key stored, (self.ospf_originate settings now).1.database.get? key = some stored →
        scoped_key (ofLex key).1 stored.lsa = key ∧ stored.lsa.age ≤ LSA_MAX_AGE := by
      intro key stored found
      have after : self.outcome self_id (self.ospf_desired settings self_id now) now key = some stored := by
        rcases originated_lookup sound named settings now key with same | ⟨gone,-⟩
        · rw [← same,found]
        · rw [gone] at found
          cases found
      cases held : self.database.get? key with
      | none =>
        rw [outcome,held] at after
        obtain ⟨lsa,wanted,made⟩ := Option.bind_eq_some_iff.mp after
        split_ifs at made
        cases made
        obtain ⟨stands,-,new⟩ := own key lsa wanted
        exact ⟨stands,by rw [new]; exact UInt16.zero_le⟩
      | some old =>
        obtain ⟨left,here,became⟩ := outcome_left held self_id (self.ospf_desired settings self_id now) now
        rw [after] at here
        obtain rfl := Option.some.inj here
        exact became.sound own (sound.keyed key old held) (sound.aged key old held)
    refine ⟨fun key stored found => (entries key stored found).1,fun key stored found => (entries key stored found).2,?_⟩
    rw [ospf_originate,named]
    dsimp only
    have bounded : ∀ after : OspfRuntime, after.database.size ≤ OSPF_DATABASE_LIMIT →
        (after.remove_aged now).database.size ≤ OSPF_DATABASE_LIMIT := by
      intro after bounded
      unfold remove_aged
      split
      · exact (size_retain_le _ _).trans bounded
      · exact bounded
    refine bounded _ ?_
    rw [(updates_database _ _ _).1]
    exact BoundedMap.puts_size_le sound.bounded

theorem Sound.tick (sound : self.Sound) (settings : Settings) (now : SimTime) : (self.ospf_tick settings now).1.Sound :=
  (((sound.prepare settings now).same (elect_store settings _ now)).originate settings now).same (tick_store settings self now)

/-- What a packet does to the store before the timers are driven: installations, one after another. -/
theorem accept_store {interface : InterfaceId} {source : Ipv4Addr} {packet : OspfV2Packet}
    {heard : OspfRuntime × List OspfTransmission} (accepted : self.accept_packet interface source packet now = some heard) :
    SameStore self heard.1 ∨ ∃ between : OspfRuntime, SameStore self between ∧ ∃ lsas,
      heard.1 = (install_all packet.area (some (toLex (interface,packet.router_id))) now between lsas).1 := by
  unfold accept_packet at accepted
  split at accepted
  · split at accepted
    · cases accepted
    · split at accepted
      · obtain ⟨after,met,rfl⟩ := Option.map_eq_some_iff.mp accepted
        unfold receive_hello at met
        dsimp only at met
        split_ifs at met <;> (cases met; exact .inl ⟨rfl,rfl⟩)
      · unfold receive_body at accepted
        dsimp only at accepted
        split at accepted
        · cases accepted
        · split at accepted
          · cases accepted
          · cases accepted
            refine .inr ⟨_,?_,_,rfl⟩
            exact ⟨rfl,rfl⟩
  · cases accepted

theorem Sound.accept (sound : self.Sound) {interface : InterfaceId} {source : Ipv4Addr} {packet : OspfV2Packet}
    {heard : OspfRuntime × List OspfTransmission} (accepted : self.accept_packet interface source packet now = some heard) :
    heard.1.Sound := by
  rcases accept_store accepted with same | ⟨between,same,lsas,installed⟩
  · exact sound.same same
  · rw [installed]
    exact (sound.same same).install_all _ _ _ _

theorem Sound.perform (sound : self.Sound) (operation : Operation) : (self.perform operation).Sound := by
  cases operation with
  | tick settings now => exact sound.tick settings now
  | receive settings interface source packet now =>
    have prepared := sound.prepare settings now
    rw [OspfRuntime.perform,receive_ospf_v2]
    dsimp only
    split
    · exact prepared
    · rename_i heard accepted
      exact (prepared.accept accepted).tick settings now
  | restart => exact sound_default

theorem Sound.run (sound : self.Sound) (operations : List Operation) : (self.run operations).Sound := by
  induction operations generalizing self with
  | nil => exact sound
  | cons operation rest ih => exact ih (sound.perform operation)

/-- What the timers of an operation start from, with what the device gives and the time. -/
def driven (self : OspfRuntime) : Operation → Option (Settings × OspfRuntime × SimTime)
  | .tick settings now => some (settings,self,now)
  | .receive settings interface source packet now =>
    ((self.ospf_prepare settings now).accept_packet interface source packet now).map (fun heard => (settings,heard.1,now))
  | .restart => none

/-- The state in which an operation originates. -/
def originating (self : OspfRuntime) (operation : Operation) : Option (Settings × OspfRuntime × SimTime) :=
  (self.driven operation).map (fun start =>
    (start.1,((start.2.1.ospf_prepare start.1 start.2.2).ospf_elect start.1 start.2.2).1,start.2.2))

theorem Sound.originating (sound : self.Sound) {operation : Operation} {settings : Settings} {before : OspfRuntime}
    {now : SimTime} (originates : self.originating operation = some (settings,before,now)) :
    before.Sound ∧ SameStore (before.ospf_originate settings now).1 (self.perform operation) := by
  obtain ⟨⟨given,begun,time⟩,drives,here⟩ := Option.map_eq_some_iff.mp originates
  cases here
  have driven : begun.Sound ∧ self.perform operation = (begun.ospf_tick given time).1 := by
    cases operation with
    | tick _ _ =>
      cases drives
      exact ⟨sound,rfl⟩
    | receive settings interface source packet now =>
      obtain ⟨heard,accepted,same⟩ := Option.map_eq_some_iff.mp drives
      cases same
      refine ⟨(sound.prepare _ _).accept accepted,?_⟩
      rw [OspfRuntime.perform,receive_ospf_v2]
      dsimp only
      rw [accepted]
    | restart => cases drives
  obtain ⟨begun_sound,performed⟩ := driven
  rw [performed]
  exact ⟨(begun_sound.prepare given time).same (elect_store given _ time),tick_store given begun time⟩

/-- Whatever happened to a process before, and however far apart its timers are driven: an origination leaves a fresh
    instance of a desired advertisement exactly if it could renew it. Otherwise what is left of it, and everything else of
    the router's own, is at MaxAge. -/
theorem origination_exact (operations : List Operation) (operation : Operation) {settings : Settings} {before : OspfRuntime}
    {now : SimTime} {self_id : Ipv4Addr} (originates : (default.run operations).originating operation = some (settings,before,now))
    (named : before.router_id = some self_id) :
    let desired := before.ospf_desired settings self_id now
    let after := (default.run (operations ++ [operation])).database
    (∀ key lsa, desired.get? key = some lsa →
      (Fresh now lsa.body (after.get? key) ↔ before.renewable desired now key lsa = true) ∧
        (before.renewable desired now key lsa = false → ∀ stored, after.get? key = some stored → stored.lsa.age = LSA_MAX_AGE)) ∧
      ∀ key stored, after.get? key = some stored → (ofLex key).2.advertising_router = self_id → desired.get? key = none →
        stored.lsa.age = LSA_MAX_AGE := by
  intro desired after
  obtain ⟨sound,store⟩ := (sound_default.run operations).originating originates
  have own := own_desired settings before self_id now
  have ran : default.run (operations ++ [operation]) = (default.run operations).perform operation := List.foldl_concat ..
  have lookup := originated_lookup sound named settings now
  rw [← store.database,← ran] at lookup
  have kept : ∀ key stored, after.get? key = some stored → before.outcome self_id desired now key = some stored := by
    intro key stored found
    rcases lookup key with same | ⟨gone,-⟩
    · exact same ▸ found
    · rw [found] at gone
      cases gone
  refine ⟨fun key lsa wanted => ?_,fun key stored found mine undesired =>
    outcome_undesired mine undesired now (kept key stored found)⟩
  obtain ⟨renews,fails⟩ := outcome_desired own wanted now
  have ended : before.renewable desired now key lsa = false → ∀ stored, after.get? key = some stored →
      stored.lsa.age = LSA_MAX_AGE := fun refused stored found => fails refused stored (kept key stored found)
  refine ⟨⟨fun fresh => ?_,fun renewed => ?_⟩,ended⟩
  · obtain ⟨stored,found,-,young,-⟩ := fresh
    by_contra refused
    exact young (ended (Bool.not_eq_true _ ▸ refused) stored found)
  · rcases lookup key with same | ⟨-,-,stored,left,aged,-⟩
    · rw [show after.get? key = _ from same]
      exact renews renewed
    · have fresh := renews renewed
      rw [left] at fresh
      exact absurd fresh (not_fresh aged)

/-- One interface in the backbone. -/
def stub : Settings where
  config := some ⟨[⟨0x0a000000,0x00ffffff,0⟩],some 1,[],⟨none,none⟩⟩
  policy _ := ⟨1,1,10,40,.Broadcast⟩
  mtu _ := 1500
  network := ⟨.ofList [(1,⟨false,⟨#v[2,0,0,0,3,1]⟩,some ⟨0x0a000001,26,by decide⟩,true⟩)],∅,∅,[]⟩
  bgp_routes := []

theorem origination_exact_late :
    let before := (((default.run [.tick stub 0]).ospf_prepare stub 4000000000).ospf_elect stub 4000000000).1
    let desired := before.ospf_desired stub 1 4000000000
    let after := (default.run ([.tick stub 0] ++ [.tick stub 4000000000])).database
    (∀ key lsa, desired.get? key = some lsa →
      (Fresh 4000000000 lsa.body (after.get? key) ↔ before.renewable desired 4000000000 key lsa = true) ∧
        (before.renewable desired 4000000000 key lsa = false →
          ∀ stored, after.get? key = some stored → stored.lsa.age = LSA_MAX_AGE)) ∧
      ∀ key stored, after.get? key = some stored → (ofLex key).2.advertising_router = 1 → desired.get? key = none →
        stored.lsa.age = LSA_MAX_AGE :=
  origination_exact [.tick stub 0] (.tick stub 4000000000) rfl (by decide +kernel)

/-- More than an hour without a tick: the refresh of the only advertisement is overridden by its age-out. -/
example : (default.run [.tick stub 0,.tick stub 4000000000]).database.values.map (fun stored =>
    (stored.lsa.sequence,stored.lsa.age)) = [(LSA_INITIAL_SEQUENCE,LSA_MAX_AGE)] := by decide +kernel

end OspfRuntime
end Rios.OspfDevice
