import Rios.OspfExchange

/-!
# Designated routers

Non-preemptive selection of the designated and the backup router of a broadcast
segment. An identity is an OSPFv2 interface address or an OSPFv3 router ID, and
`0.0.0.0` stands for no router. A router decides from the declarations of its
neighbours and its own, and once more if the first result changes its own role.
-/

namespace Rios.Maximum

universe u v
variable {α : Type u} {κ : Type v} [LinearOrder κ]

/-- `Iterator::max_by_key`: the last of the items with the largest key. -/
def max_by_key (key : α → κ) : List α → Option α
  | [] => none
  | item :: rest =>
    match max_by_key key rest with
    | none => some item
    | some best => if key best < key item then some item else some best

theorem max_by_key_eq_none {key : α → κ} {items : List α} : max_by_key key items = none ↔ items = [] := by
  cases items with
  | nil => simp [max_by_key]
  | cons item rest =>
    rw [max_by_key]
    cases max_by_key key rest with
    | none => simp
    | some best => by_cases less : key best < key item <;> simp [less]

/-- The selected item is listed, and no key is larger. -/
theorem max_by_key_some {key : α → κ} {items : List α} {best : α} (selected : max_by_key key items = some best) :
    best ∈ items ∧ ∀ item ∈ items, key item ≤ key best := by
  induction items generalizing best with
  | nil => cases selected
  | cons item rest ih =>
    rw [max_by_key] at selected
    cases others : max_by_key key rest with
    | none =>
      rw [others] at selected
      cases selected
      rw [max_by_key_eq_none.mp others]
      simp
    | some other =>
      obtain ⟨listed,largest⟩ := ih others
      rw [others] at selected
      by_cases less : key other < key item
      · simp only [less,if_true,Option.some.injEq] at selected
        subst selected
        refine ⟨List.mem_cons_self,?_⟩
        intro another member
        rcases List.mem_cons.mp member with rfl | later
        · exact le_rfl
        · exact (largest another later).trans less.le
      · simp only [less,if_false,Option.some.injEq] at selected
        subst selected
        refine ⟨List.mem_cons_of_mem _ listed,?_⟩
        intro another member
        rcases List.mem_cons.mp member with rfl | later
        · exact not_lt.mp less
        · exact largest another later

/-- Where keys differ, an item with the largest key is the selected one. -/
theorem max_by_key_unique {key : α → κ} {items : List α} (distinct : (items.map key).Nodup) {best : α}
    (listed : best ∈ items) (largest : ∀ item ∈ items, key item ≤ key best) : max_by_key key items = some best := by
  cases selected : max_by_key key items with
  | none =>
    rw [max_by_key_eq_none.mp selected] at listed
    cases listed
  | some other =>
    obtain ⟨member,bound⟩ := max_by_key_some selected
    exact congrArg some (List.inj_on_of_nodup_map distinct member listed (le_antisymm (largest other member) (bound best listed)))

/-- Where keys differ, the order of the items does not matter. -/
theorem max_by_key_perm {key : α → κ} {items others : List α} (distinct : (items.map key).Nodup) (same : others.Perm items) :
    max_by_key key others = max_by_key key items := by
  cases selected : max_by_key key items with
  | none =>
    rw [max_by_key_eq_none] at selected ⊢
    subst selected
    exact same.eq_nil
  | some best =>
    obtain ⟨listed,largest⟩ := max_by_key_some selected
    exact max_by_key_unique ((same.map key).nodup_iff.mpr distinct) (same.mem_iff.mpr listed)
      (fun item member => largest item (same.mem_iff.mp member))

/-- One more item at the end. -/
theorem max_by_key_append (key : α → κ) (items : List α) (last : α) :
    max_by_key key (items ++ [last]) =
      some ((max_by_key key items).elim last (fun best => if key last < key best then best else last)) := by
  induction items with
  | nil => rfl
  | cons item rest ih =>
    rw [List.cons_append,max_by_key,ih,max_by_key]
    cases max_by_key key rest with
    | none => by_cases less : key last < key item <;> simp [less]
    | some best =>
      by_cases least : key last < key best <;> by_cases less : key best < key item <;> by_cases beaten :
        key last < key item <;>
        simp [least,less,beaten]
      · exact absurd (least.trans less) beaten
      · exact absurd (beaten.trans_le (not_lt.mp less)) least

end Rios.Maximum

namespace Rios.Ospf
open Rios.Machine Rios.Device Rios.Queue Rios.Maximum

/-- A two-way participant in one broadcast election. -/
structure OspfElectionCandidate where
  priority : UInt8
  id : Ipv4Addr
  address : Ipv4Addr
  dr : Ipv4Addr
  bdr : Ipv4Addr
deriving DecidableEq

namespace OspfElectionCandidate

/-- Priority, then router ID. -/
def rank (self : OspfElectionCandidate) : UInt8 ×ₗ Ipv4Addr := toLex (self.priority,self.id)

/-- A candidate that declares itself designated. -/
def declares_dr (self : OspfElectionCandidate) : Bool := self.dr = self.address

/-- A candidate that declares itself backup, and not designated. -/
def declares_bdr (self : OspfElectionCandidate) : Bool := self.dr ≠ self.address ∧ self.bdr = self.address

/-- The candidate with another declaration. -/
def declaring (self : OspfElectionCandidate) (result : Ipv4Addr × Ipv4Addr) : OspfElectionCandidate :=
  {self with dr := result.1, bdr := result.2}

end OspfElectionCandidate
open OspfElectionCandidate

/-- Select designated and backup identities by declarations, priority and router ID. -/
def ospf_election (candidates : List OspfElectionCandidate) : Ipv4Addr × Ipv4Addr :=
  let eligible := candidates.filter (fun c => 0 < c.priority)
  let bdr := ((max_by_key rank (eligible.filter declares_bdr)).or
    (max_by_key rank (eligible.filter (fun c => !c.declares_dr)))).elim 0 address
  let dr := (max_by_key rank (eligible.filter declares_dr)).elim bdr address
  (dr,bdr)

/-- The election of one router: a second pass if the first one changes its own role. -/
def elect (neighbors : List OspfElectionCandidate) (own : OspfElectionCandidate) : Ipv4Addr × Ipv4Addr :=
  let first := ospf_election (neighbors ++ [own])
  if decide (first.1 = own.address) ≠ decide (own.dr = own.address) ∨
      decide (first.2 = own.address) ≠ decide (own.bdr = own.address) then
    ospf_election (neighbors ++ [own.declaring first])
  else first

inductive OspfNetworkType where
  | Broadcast
  | PointToPoint
deriving DecidableEq

/-- What an election reads of a neighbour: its identity and its last Hello. -/
structure Neighbor where
  router_id : Ipv4Addr
  address : Ipv4Addr
  state : OspfNeighborState
  priority : UInt8
  designated_router : Ipv4Addr
  backup_router : Ipv4Addr
deriving DecidableEq

/-- What an election reads and writes of an interface. -/
structure InterfaceRuntime where
  network_type : OspfNetworkType
  priority : UInt8
  address : Ipv4Addr
  wait_until : SimTime
  hello_due : SimTime
  dr : Ipv4Addr
  bdr : Ipv4Addr
deriving DecidableEq

/-- The neighbours that take part, by their identities. -/
def candidates (identity : Neighbor → Ipv4Addr) (neighbors : List Neighbor) : List OspfElectionCandidate :=
  (neighbors.filter (fun n => n.state ≠ .Init)).map
    (fun n => ⟨n.priority,n.router_id,identity n,n.designated_router,n.backup_router⟩)

/-- The interface's router as a candidate. -/
def InterfaceRuntime.candidate (self : InterfaceRuntime) (self_id identity : Ipv4Addr) : OspfElectionCandidate :=
  ⟨self.priority,self_id,identity,self.dr,self.bdr⟩

/-- Before the wait ends, an election needs a neighbour that already knows its segment. -/
def InterfaceRuntime.waits (self : InterfaceRuntime) (candidates : List OspfElectionCandidate) (now : SimTime) : Bool :=
  now < self.wait_until && !candidates.any (fun c => c.bdr = c.address || (c.dr = c.address && c.bdr = 0)) && self.dr = 0

/-- The election on one interface; OSPFv2 and OSPFv3 differ in the identities. -/
def InterfaceRuntime.elect (self : InterfaceRuntime) (self_id own_identity : Ipv4Addr) (identity : Neighbor → Ipv4Addr)
    (neighbors : List Neighbor) (now : SimTime) : InterfaceRuntime :=
  if self.network_type = .Broadcast then
    let candidates := candidates identity neighbors
    if self.waits candidates now then self
    else
      let (dr,bdr) := Ospf.elect candidates (self.candidate self_id own_identity)
      {self with
        hello_due := if self.dr ≠ dr ∨ self.bdr ≠ bdr then now else self.hello_due
        dr := dr
        bdr := bdr
        wait_until := now}
  else self

def ospf_elect (self_id : Ipv4Addr) (runtime : InterfaceRuntime) (neighbors : List Neighbor) (now : SimTime) :
    InterfaceRuntime :=
  runtime.elect self_id runtime.address Neighbor.address neighbors now

def ospfv3_elect (self_id : Ipv4Addr) (runtime : InterfaceRuntime) (neighbors : List Neighbor) (now : SimTime) :
    InterfaceRuntime :=
  runtime.elect self_id self_id Neighbor.router_id neighbors now

/-- Routers that become adjacent: one of them is designated or backup. -/
def InterfaceRuntime.adjacent (self : InterfaceRuntime) (own_identity identity : Ipv4Addr) : Bool :=
  self.network_type = .PointToPoint || [self.dr,self.bdr].contains own_identity || [self.dr,self.bdr].contains identity

/-! ### One pass -/

/-- The best eligible candidate of a role. -/
def best (role : OspfElectionCandidate → Bool) (neighbors : List OspfElectionCandidate) : Option OspfElectionCandidate :=
  max_by_key rank ((neighbors.filter (fun c => 0 < c.priority)).filter role)

/-- A candidate that may become backup. -/
def not_dr (self : OspfElectionCandidate) : Bool := !self.declares_dr

theorem ospf_election_eq (candidates : List OspfElectionCandidate) :
    ospf_election candidates =
      ((best declares_dr candidates).elim (((best declares_bdr candidates).or (best not_dr candidates)).elim 0 address) address,
        ((best declares_bdr candidates).or (best not_dr candidates)).elim 0 address) := rfl

variable {neighbors : List OspfElectionCandidate}

theorem best_mem {role : OspfElectionCandidate → Bool} {c : OspfElectionCandidate}
    (selected : best role neighbors = some c) : c ∈ neighbors ∧ 0 < c.priority ∧ role c = true := by
  have listed := (max_by_key_some selected).1
  simp only [List.mem_filter,decide_eq_true_eq] at listed
  exact ⟨listed.1.1,listed.1.2,listed.2⟩

theorem best_eq_none {role : OspfElectionCandidate → Bool} :
    best role neighbors = none ↔ ∀ c ∈ neighbors, 0 < c.priority → role c = false := by
  rw [best,max_by_key_eq_none,List.filter_filter,List.filter_eq_nil_iff]
  refine forall₂_congr fun c _ => ?_
  by_cases eligible : 0 < c.priority <;> simp [eligible]

/-- Distinct ranks make the best candidate independent of the order. -/
theorem best_perm {role : OspfElectionCandidate → Bool} {others : List OspfElectionCandidate}
    (distinct : (neighbors.map rank).Nodup) (same : others.Perm neighbors) : best role others = best role neighbors := by
  refine max_by_key_perm ?_ ((same.filter _).filter _)
  exact distinct.sublist ((List.filter_sublist.trans List.filter_sublist).map _)

theorem ospf_election_perm {candidates others : List OspfElectionCandidate} (distinct : (candidates.map rank).Nodup)
    (same : others.Perm candidates) : ospf_election others = ospf_election candidates := by
  rw [ospf_election_eq,ospf_election_eq,best_perm distinct same,best_perm distinct same,best_perm distinct same]

/-- The winner of a role between a router and the best of its neighbours. -/
def winner (role : OspfElectionCandidate → Bool) (neighbors : List OspfElectionCandidate) (own : OspfElectionCandidate) :
    Ipv4Addr :=
  (best role neighbors).elim own.address (fun c => if rank own < rank c then c.address else own.address)

theorem best_append (role : OspfElectionCandidate → Bool) (neighbors : List OspfElectionCandidate)
    (own : OspfElectionCandidate) :
    best role (neighbors ++ [own]) =
      if 0 < own.priority ∧ role own = true then
        some ((best role neighbors).elim own (fun c => if rank own < rank c then c else own))
      else best role neighbors := by
  simp only [best,List.filter_append]
  by_cases eligible : 0 < own.priority
  · by_cases plays : role own = true
    · rw [if_pos ⟨eligible,plays⟩,List.filter_singleton,decide_eq_true eligible]
      simp only [cond_true,List.filter_singleton,plays]
      exact max_by_key_append rank _ own
    · rw [if_neg (fun both => plays both.2)]
      simp [eligible,plays]
  · rw [if_neg (fun both => eligible both.1)]
    simp [eligible]

theorem winner_eq (role : OspfElectionCandidate → Bool) (neighbors : List OspfElectionCandidate)
    (own : OspfElectionCandidate) :
    address ((best role neighbors).elim own (fun c => if rank own < rank c then c else own)) = winner role neighbors own := by
  unfold winner
  cases best role neighbors with
  | none => rfl
  | some c => exact apply_ite address _ _ _

/-- The backup router where a router declares itself designated or not, and backup or not. -/
def backup (neighbors : List OspfElectionCandidate) (own : OspfElectionCandidate) (dr bdr : Bool) : Ipv4Addr :=
  if dr then ((best declares_bdr neighbors).or (best not_dr neighbors)).elim 0 address
  else if bdr then winner declares_bdr neighbors own
  else (best declares_bdr neighbors).elim (winner not_dr neighbors own) address

/-- The designated router for the same declarations. -/
def designated (neighbors : List OspfElectionCandidate) (own : OspfElectionCandidate) (dr bdr : Bool) : Ipv4Addr :=
  if dr then winner declares_dr neighbors own
  else (best declares_dr neighbors).elim (backup neighbors own dr bdr) address

/-- The result as a function of the router's own two declarations. -/
def result (neighbors : List OspfElectionCandidate) (own : OspfElectionCandidate) (dr bdr : Bool) : Ipv4Addr × Ipv4Addr :=
  (designated neighbors own dr bdr,backup neighbors own dr bdr)

theorem backup_eq (neighbors : List OspfElectionCandidate) {own : OspfElectionCandidate} (eligible : 0 < own.priority) :
    ((best declares_bdr (neighbors ++ [own])).or (best not_dr (neighbors ++ [own]))).elim 0 address =
      backup neighbors own (own.dr = own.address) (own.bdr = own.address) := by
  rw [best_append,best_append]
  unfold backup
  by_cases dr : own.dr = own.address
  · simp [declares_bdr,not_dr,declares_dr,dr]
  · by_cases bdr : own.bdr = own.address
    · simp [declares_bdr,dr,bdr,eligible,winner_eq]
    · simp only [declares_bdr,not_dr,declares_dr,dr,bdr,eligible,decide_false,Bool.not_false,and_true,if_true,ne_eq,not_false_eq_true,
        and_false,if_false,Bool.false_eq_true]
      cases best declares_bdr neighbors with
      | none => exact winner_eq not_dr neighbors own
      | some c => rfl

theorem election_result (neighbors : List OspfElectionCandidate) {own : OspfElectionCandidate}
    (eligible : 0 < own.priority) :
    ospf_election (neighbors ++ [own]) = result neighbors own (own.dr = own.address) (own.bdr = own.address) := by
  rw [ospf_election_eq,backup_eq neighbors eligible,best_append]
  unfold result designated
  by_cases dr : own.dr = own.address
  · simp [declares_dr,dr,eligible,winner_eq]
  · simp [declares_dr,dr]

/-- A router without priority has no say. -/
theorem election_ineligible (neighbors : List OspfElectionCandidate) {own : OspfElectionCandidate}
    (ineligible : ¬0 < own.priority) :
    ospf_election (neighbors ++ [own]) = ospf_election neighbors := by
  have without : ∀ role, best role (neighbors ++ [own]) = best role neighbors := by
    intro role
    rw [best_append,if_neg (fun both => ineligible both.1)]
  rw [ospf_election_eq,ospf_election_eq,without,without,without]

/-! ### The second pass -/

section
variable {neighbors : List OspfElectionCandidate} {own : OspfElectionCandidate}

theorem best_apart (apart : ∀ c ∈ neighbors, c.address ≠ own.address) {role : OspfElectionCandidate → Bool}
    {c : OspfElectionCandidate} (selected : best role neighbors = some c) : c.address ≠ own.address :=
  apart c (best_mem selected).1

/-- A winner that is not the router itself is the best of its neighbours. -/
theorem winner_other {role : OspfElectionCandidate → Bool} (lost : winner role neighbors own ≠ own.address) :
    ∃ c, best role neighbors = some c ∧ winner role neighbors own = c.address := by
  unfold winner at lost ⊢
  cases selected : best role neighbors with
  | none =>
    rw [selected] at lost
    exact absurd rfl lost
  | some c =>
    refine ⟨c,rfl,?_⟩
    rw [selected] at lost
    by_cases outranked : rank own < rank c
    · simp [outranked]
    · simp [outranked] at lost

/-- A router that does not declare itself designated keeps the backup router that it chose. -/
theorem backup_stable (apart : ∀ c ∈ neighbors, c.address ≠ own.address) (bdr : Bool) :
    backup neighbors own false (backup neighbors own false bdr = own.address) = backup neighbors own false bdr := by
  by_cases mine : backup neighbors own false bdr = own.address
  · rw [decide_eq_true mine]
    cases bdr with
    | true => rfl
    | false =>
      cases selected : best declares_bdr neighbors with
      | none => simpa [backup,selected,winner] using mine.symm
      | some c =>
        simp only [backup,selected,Option.elim_some,if_false,Bool.false_eq_true] at mine
        exact absurd mine (best_apart apart selected)
  · rw [decide_eq_false mine]
    cases bdr with
    | false => rfl
    | true =>
      simp only [backup,if_false,if_true,Bool.false_eq_true] at mine ⊢
      obtain ⟨c,selected,same⟩ := winner_other mine
      rw [selected,same]
      rfl

/-- Both passes, from a router's declarations. -/
def passes (neighbors : List OspfElectionCandidate) (own : OspfElectionCandidate) (dr bdr : Bool) : Ipv4Addr × Ipv4Addr :=
  let first := result neighbors own dr bdr
  if decide (first.1 = own.address) ≠ dr ∨ decide (first.2 = own.address) ≠ bdr then
    result neighbors own (first.1 = own.address) (first.2 = own.address)
  else first

theorem elect_eq (eligible : 0 < own.priority) :
    elect neighbors own = passes neighbors own (own.dr = own.address) (own.bdr = own.address) := by
  have again : ∀ declared, ospf_election (neighbors ++ [own.declaring declared]) =
      result neighbors own (declared.1 = own.address) (declared.2 = own.address) :=
    fun declared => @election_result neighbors (own.declaring declared) eligible
  simp only [elect,again,election_result neighbors eligible,passes]

/-- Where the first pass keeps the declarations, a second one would change nothing. -/
theorem passes_eq (dr bdr : Bool) :
    passes neighbors own dr bdr = result neighbors own ((result neighbors own dr bdr).1 = own.address)
      ((result neighbors own dr bdr).2 = own.address) := by
  unfold passes
  dsimp only
  by_cases changed : decide ((result neighbors own dr bdr).1 = own.address) ≠ dr ∨
      decide ((result neighbors own dr bdr).2 = own.address) ≠ bdr
  · rw [if_pos changed]
  · rw [if_neg changed]
    obtain ⟨sameDr,sameBdr⟩ := not_or.mp changed
    rw [not_not.mp sameDr,not_not.mp sameBdr]

/-- With a designated neighbour, a router that does not declare itself designated reaches its result in one pass. -/
theorem result_settled (apart : ∀ c ∈ neighbors, c.address ≠ own.address) {c : OspfElectionCandidate}
    (selected : best declares_dr neighbors = some c) (bdr : Bool) :
    result neighbors own ((result neighbors own false bdr).1 = own.address) ((result neighbors own false bdr).2 = own.address) =
      result neighbors own false bdr := by
  have designee : ∀ q, (result neighbors own false q).1 = c.address := by
    intro q
    simp [result,designated,selected]
  have other : decide ((result neighbors own false bdr).1 = own.address) = false := by
    rw [designee]
    exact decide_eq_false (best_apart apart selected)
  rw [other]
  exact Prod.ext ((designee _).trans (designee _).symm) (backup_stable apart bdr)

/-- What a router holds after both passes is the result of one pass from that declaration. -/
theorem passes_stable (apart : ∀ c ∈ neighbors, c.address ≠ own.address) (dr bdr : Bool) :
    result neighbors own ((passes neighbors own dr bdr).1 = own.address) ((passes neighbors own dr bdr).2 = own.address) =
      passes neighbors own dr bdr := by
  -- the backup declaration of a router that declares itself designated is not read
  have unread : ∀ q r, result neighbors own true q = result neighbors own true r := fun _ _ => rfl
  cases dr with
  | true =>
    by_cases won : (result neighbors own true bdr).1 = own.address
    · have outcome : passes neighbors own true bdr = result neighbors own true bdr := by
        rw [passes_eq,decide_eq_true won]
        exact unread _ _
      rw [outcome,decide_eq_true won]
      exact unread _ _
    · obtain ⟨c,selected,-⟩ := winner_other (show winner declares_dr neighbors own ≠ own.address from won)
      rw [passes_eq,decide_eq_false won]
      exact result_settled apart selected _
  | false =>
    cases selected : best declares_dr neighbors with
    | some c => rw [passes_eq,result_settled apart selected,result_settled apart selected]
    | none =>
      have vacant : ∀ q, result neighbors own false q = (backup neighbors own false q,backup neighbors own false q) := by
        intro q
        simp [result,designated,selected]
      by_cases mine : backup neighbors own false bdr = own.address
      · -- the router is both at first; declaring so, it is designated and gives the backup role away
        have won : (result neighbors own true true).1 = own.address := by simp [result,designated,winner,selected]
        have outcome : passes neighbors own false bdr = result neighbors own true true := by
          rw [passes_eq,vacant,decide_eq_true mine]
        rw [outcome,decide_eq_true won]
        exact unread _ _
      · have settled := backup_stable apart bdr
        rw [decide_eq_false mine] at settled
        have outcome : passes neighbors own false bdr = result neighbors own false false := by
          rw [passes_eq,vacant,decide_eq_false mine]
        rw [outcome,vacant,settled,decide_eq_false mine,vacant,settled]

theorem elect_ineligible (ineligible : ¬0 < own.priority) : elect neighbors own = ospf_election neighbors := by
  have again : ∀ declared, ospf_election (neighbors ++ [own.declaring declared]) = ospf_election neighbors :=
    fun declared => @election_ineligible neighbors (own.declaring declared) ineligible
  simp only [elect,election_ineligible neighbors ineligible,again,ite_self]

/-- Repeated with its own result, an election returns it again. -/
theorem elect_repeated (apart : ∀ c ∈ neighbors, c.address ≠ own.address) :
    elect neighbors (own.declaring (elect neighbors own)) = elect neighbors own := by
  by_cases eligible : 0 < own.priority
  · rw [@elect_eq neighbors (own.declaring (elect neighbors own)) eligible]
    show passes neighbors own ((elect neighbors own).1 = own.address) ((elect neighbors own).2 = own.address) = _
    have stable := passes_stable apart (own.dr = own.address) (own.bdr = own.address)
    rw [elect_eq eligible,passes_eq,stable,stable]
  · rw [elect_ineligible eligible]
    exact @elect_ineligible neighbors (own.declaring _) eligible

/-- A router whose declaration is its own result sees the result of one pass over all declarations. -/
theorem elect_settled (apart : ∀ c ∈ neighbors, c.address ≠ own.address)
    (declared : elect neighbors own = (own.dr,own.bdr)) :
    ospf_election (neighbors ++ [own]) = (own.dr,own.bdr) := by
  by_cases eligible : 0 < own.priority
  · rw [elect_eq eligible] at declared
    have stable := passes_stable apart (own.dr = own.address) (own.bdr = own.address)
    rw [declared] at stable
    rw [election_result neighbors eligible]
    exact stable
  · rw [election_ineligible neighbors eligible,← elect_ineligible eligible]
    exact declared

/-- Without its own candidacy a router is not the backup of its neighbours. -/
theorem alone_apart (apart : ∀ c ∈ neighbors, c.address ≠ own.address) (known : own.address ≠ 0) :
    ((best declares_bdr neighbors).or (best not_dr neighbors)).elim 0 address ≠ own.address := by
  cases backups : best declares_bdr neighbors with
  | some c => exact best_apart apart backups
  | none =>
    cases others : best not_dr neighbors with
    | some c => exact best_apart apart others
    | none => exact known.symm

/-- No router with an address makes itself both. -/
theorem elect_not_both (apart : ∀ c ∈ neighbors, c.address ≠ own.address) (known : own.address ≠ 0) :
    ¬((elect neighbors own).1 = own.address ∧ (elect neighbors own).2 = own.address) := by
  rintro ⟨dr,bdr⟩
  by_cases eligible : 0 < own.priority
  · have stable := passes_stable apart (own.dr = own.address) (own.bdr = own.address)
    rw [← elect_eq eligible,decide_eq_true dr,decide_eq_true bdr] at stable
    rw [← stable] at bdr
    exact alone_apart apart known bdr
  · rw [elect_ineligible eligible] at bdr
    exact alone_apart apart known bdr

end

/-- The only eligible candidate that declares itself designated is designated. -/
theorem designated_sole {candidates : List OspfElectionCandidate} {c : OspfElectionCandidate} (listed : c ∈ candidates)
    (eligible : 0 < c.priority) (declares : c.dr = c.address)
    (sole : ∀ other ∈ candidates, 0 < other.priority → other.dr = other.address → other.address = c.address) :
    (ospf_election candidates).1 = c.address := by
  rw [ospf_election_eq]
  cases selected : best declares_dr candidates with
  | none =>
    have refused := best_eq_none.mp selected c listed eligible
    simp [declares_dr,declares] at refused
  | some other =>
    obtain ⟨member,priority,role⟩ := best_mem selected
    exact sole other member priority (of_decide_eq_true role)

/-- A sole designated router stays designated through both passes of any router. -/
theorem elect_sole {own c : OspfElectionCandidate} (apart : ∀ c ∈ neighbors, c.address ≠ own.address)
    (listed : c ∈ neighbors ++ [own]) (eligible : 0 < c.priority) (declares : c.dr = c.address)
    (sole : ∀ other ∈ neighbors ++ [own], 0 < other.priority → other.dr = other.address → other = c) :
    (elect neighbors own).1 = c.address := by
  have first := designated_sole listed eligible declares (fun other member priority dr => congrArg _ (sole other member priority dr))
  unfold elect
  dsimp only
  by_cases changed : decide ((ospf_election (neighbors ++ [own])).1 = own.address) ≠ decide (own.dr = own.address) ∨
      decide ((ospf_election (neighbors ++ [own])).2 = own.address) ≠ decide (own.bdr = own.address)
  · rw [if_pos changed]
    rcases List.mem_append.mp listed with neighbor | local_router
    · refine designated_sole (List.mem_append_left _ neighbor) eligible declares ?_
      intro other member priority dr
      rcases List.mem_append.mp member with there | here
      · exact congrArg _ (sole other (List.mem_append_left _ there) priority dr)
      · obtain rfl := List.mem_singleton.mp here
        exact dr.symm.trans first
    · obtain rfl := List.mem_singleton.mp local_router
      refine @designated_sole _ (c.declaring _) (List.mem_append_right _ (List.mem_singleton_self _)) eligible first ?_
      intro other member priority dr
      rcases List.mem_append.mp member with there | here
      · have same : other = c := sole other (List.mem_append_left _ there) priority dr
        show other.address = c.address
        rw [same]
      · obtain rfl := List.mem_singleton.mp here
        rfl
  · rw [if_neg changed]
    exact first

/-! ### Agreement -/

/-- The routers of one segment. -/
structure Segment (routers : List OspfElectionCandidate) : Prop where
  addresses : (routers.map address).Nodup
  ranks : (routers.map rank).Nodup

theorem Segment.apart {own : OspfElectionCandidate} (segment : Segment (neighbors ++ [own])) :
    ∀ c ∈ neighbors, c.address ≠ own.address := by
  intro c member same
  have addresses := segment.addresses
  rw [List.map_append,List.nodup_append] at addresses
  exact addresses.2.2 _ (List.mem_map_of_mem member) _ (List.mem_singleton_self _) same

theorem Segment.perm {routers others : List OspfElectionCandidate} (segment : Segment routers) (same : others.Perm routers) :
    Segment others :=
  ⟨(same.map address).nodup_iff.mpr segment.addresses,(same.map rank).nodup_iff.mpr segment.ranks⟩

/-- Routers that all declare the same result elect two different ones, if two are eligible. -/
theorem declared_differ {routers : List OspfElectionCandidate} (segment : Segment routers) {dr bdr : Ipv4Addr}
    (declared : ∀ r ∈ routers, r.dr = dr) (elected : ospf_election routers = (dr,bdr))
    (two : 2 ≤ (routers.filter (fun c => 0 < c.priority)).length) : dr ≠ bdr := by
  rw [ospf_election_eq,Prod.mk.injEq] at elected
  obtain ⟨designee,deputy⟩ := elected
  -- a backup router does not declare itself designated
  have deputy_apart : ∀ c ∈ routers, 0 < c.priority → c.address ≠ dr → bdr ≠ dr := by
    intro c listed eligible other
    have willing : not_dr c = true := by
      rw [not_dr,declares_dr,declared c listed]
      simp [Ne.symm other]
    cases backups : best declares_bdr routers with
    | some k =>
      obtain ⟨member,-,role⟩ := best_mem backups
      rw [backups] at deputy
      rw [← deputy]
      simp only [declares_bdr,declared k member,decide_eq_true_eq] at role
      exact role.1.symm
    | none =>
      cases others : best not_dr routers with
      | none =>
        rw [best_eq_none.mp others c listed eligible] at willing
        cases willing
      | some k =>
        obtain ⟨member,-,role⟩ := best_mem others
        rw [backups,others] at deputy
        rw [← deputy]
        simp only [not_dr,declares_dr,declared k member,Bool.not_eq_true',decide_eq_false_iff_not] at role
        exact Ne.symm role
  obtain ⟨first,second,rest,eligible⟩ : ∃ first second rest, routers.filter (fun c => 0 < c.priority) = first :: second :: rest := by
    cases found : routers.filter (fun c => 0 < c.priority) with
    | nil =>
      rw [found] at two
      exact absurd two (by decide)
    | cons first others =>
      cases others with
      | nil =>
        rw [found] at two
        exact absurd two (by simp)
      | cons second rest => exact ⟨first,second,rest,rfl⟩
  have distinct := segment.addresses.sublist ((List.filter_sublist (p := fun c => decide (0 < c.priority))).map address)
  rw [eligible] at distinct
  have different : first.address ≠ second.address := fun same => (List.nodup_cons.mp distinct).1 (same ▸ List.mem_cons_self)
  have candidate : ∀ c ∈ first :: second :: rest, c ∈ routers ∧ 0 < c.priority := by
    intro c member
    rw [← eligible,List.mem_filter,decide_eq_true_eq] at member
    exact member
  by_cases holds : first.address = dr
  · obtain ⟨listed,priority⟩ := candidate second (by simp)
    exact (deputy_apart second listed priority (fun same => different (holds.trans same.symm))).symm
  · obtain ⟨listed,priority⟩ := candidate first (by simp)
    exact (deputy_apart first listed priority holds).symm

/-- Elections on a segment: the order of the candidates does not matter. A router with an address never
    makes itself both, repeats its result, and leaves a sole designated router designated. Where every
    declaration is the result of its router's election, all agree, on two routers if two are eligible. -/
theorem election_stable_agreed (routers : List OspfElectionCandidate) (segment : Segment routers) :
    (∀ others, others.Perm routers → ospf_election others = ospf_election routers) ∧
      (∀ neighbors own, (neighbors ++ [own]).Perm routers →
        (own.address ≠ 0 → ¬((elect neighbors own).1 = own.address ∧ (elect neighbors own).2 = own.address)) ∧
        elect neighbors (own.declaring (elect neighbors own)) = elect neighbors own ∧
        ∀ c ∈ routers, 0 < c.priority → c.dr = c.address →
          (∀ other ∈ routers, 0 < other.priority → other.dr = other.address → other = c) →
          (elect neighbors own).1 = c.address) ∧
      ((∀ own ∈ routers, ∃ neighbors, (neighbors ++ [own]).Perm routers ∧ elect neighbors own = (own.dr,own.bdr)) →
        ∀ first ∈ routers, ∀ second ∈ routers, first.dr = second.dr ∧ first.bdr = second.bdr ∧
          (2 ≤ (routers.filter (fun c => 0 < c.priority)).length → first.dr ≠ first.bdr)) := by
  refine ⟨fun others same => ospf_election_perm segment.ranks same,?_,?_⟩
  · intro neighbors own same
    have apart := (segment.perm same).apart
    refine ⟨elect_not_both apart,elect_repeated apart,?_⟩
    intro c listed eligible declares sole
    exact elect_sole apart (same.mem_iff.mpr listed) eligible declares
      (fun other member => sole other (same.mem_iff.mp member))
  · intro declared
    -- every router's declaration is the one result of all declarations
    have common : ∀ own ∈ routers, ospf_election routers = (own.dr,own.bdr) := by
      intro own listed
      obtain ⟨neighbors,same,decided⟩ := declared own listed
      rw [← elect_settled (segment.perm same).apart decided]
      exact (ospf_election_perm segment.ranks same).symm
    have agree : ∀ first ∈ routers, ∀ second ∈ routers, (first.dr,first.bdr) = (second.dr,second.bdr) :=
      fun first here second there => (common first here).symm.trans (common second there)
    intro first here second there
    obtain ⟨dr,bdr⟩ := Prod.mk.inj (agree first here second there)
    refine ⟨dr,bdr,?_⟩
    intro two
    exact declared_differ segment (fun r listed => (Prod.mk.inj (agree r listed first here)).1) (common first here) two

/-- Three settled routers, one of them without priority. -/
def settled_routers : List OspfElectionCandidate :=
  [⟨1,1,0x0a000001,0x0a000002,0x0a000001⟩,⟨1,2,0x0a000002,0x0a000002,0x0a000001⟩,⟨0,3,0x0a000003,0x0a000002,0x0a000001⟩]

theorem election_stable_agreed_settled :
    ospf_election settled_routers.reverse = ospf_election settled_routers ∧
      ∀ first ∈ settled_routers, ∀ second ∈ settled_routers, first.dr = second.dr ∧ first.bdr = second.bdr ∧
        (2 ≤ (settled_routers.filter (fun c => 0 < c.priority)).length → first.dr ≠ first.bdr) := by
  obtain ⟨ordered,-,agreed⟩ := election_stable_agreed settled_routers ⟨by decide +kernel,by decide +kernel⟩
  refine ⟨ordered _ (List.reverse_perm _),agreed ?_⟩
  intro own listed
  fin_cases listed
  · exact ⟨[⟨1,2,0x0a000002,0x0a000002,0x0a000001⟩,⟨0,3,0x0a000003,0x0a000002,0x0a000001⟩],by decide +kernel,by decide +kernel⟩
  · exact ⟨[⟨1,1,0x0a000001,0x0a000002,0x0a000001⟩,⟨0,3,0x0a000003,0x0a000002,0x0a000001⟩],by decide +kernel,by decide +kernel⟩
  · exact ⟨[⟨1,1,0x0a000001,0x0a000002,0x0a000001⟩,⟨1,2,0x0a000002,0x0a000002,0x0a000001⟩],by decide +kernel,by decide +kernel⟩

/-- A router whose interface has the address `0.0.0.0` takes "no router" for itself. -/
theorem unaddressed_both :
    ¬∀ neighbors own, Segment (neighbors ++ [own]) →
      ¬((elect neighbors own).1 = own.address ∧ (elect neighbors own).2 = own.address) := by
  intro never
  exact never [] ⟨1,7,0,0,0⟩ ⟨by decide +kernel,by decide +kernel⟩ (by decide +kernel)

end Rios.Ospf
