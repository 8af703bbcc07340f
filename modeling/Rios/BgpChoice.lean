import Rios.BgpRib

/-!
# AS paths and the choice among routes

Prepending rewrites only the sequence that a path starts with, and the best path
of a prefix is a property of the set of its candidates, not of their order.
-/

namespace Rios.Bgp
open Rios.Machine Rios.Device Rios.OspfSpf

/-! ### Prepending -/

theorem chunks_flatten {α : Type} {size : Nat} (positive : 0 < size) {fuel : Nat} {values : List α}
    (enough : values.length ≤ fuel) : (chunks size fuel values).flatten = values := by
  induction fuel generalizing values with
  | zero =>
    obtain rfl := List.length_eq_zero_iff.mp (Nat.le_zero.mp enough)
    rfl
  | succ fuel ih =>
    cases values with
    | nil => rfl
    | cons head tail =>
      have shorter : ((head :: tail).drop size).length ≤ fuel := by
        rw [List.length_drop]
        omega
      rw [chunks,List.flatten_cons,ih shorter,List.take_append_drop]
      simp

namespace AsPathSegment

def isSequence : AsPathSegment → Bool
  | .Sequence _ => true
  | .Set _ => false

/-- What a segment adds to the length of a path. -/
def weight : AsPathSegment → Nat
  | .Sequence members => members.length
  | .Set _ => 1

end AsPathSegment

namespace BgpAttributes

/-- The members of the sequences that a path starts with. -/
def leading (path : List AsPathSegment) : List UInt32 := (path.takeWhile (·.isSequence)).flatMap (·.members)

/-- The path from its first set on. -/
def later (path : List AsPathSegment) : List AsPathSegment := path.dropWhile (·.isSequence)

/-- Every segment has a one-byte count. -/
def Counted (path : List AsPathSegment) : Prop := ∀ segment ∈ path, 1 ≤ segment.members.length ∧ segment.members.length ≤ 255

/-- `prepend` on the attributes themselves: the first sequence is removed, and the chunks are inserted from the last. -/
def prepend_in_place (self : BgpAttributes) (asns : List UInt32) : Result Unit × BgpAttributes :=
  if asns.contains 0 || 1024 < asns.length + (self.as_path.map (·.members.length)).sum then (.error ⟨6,8⟩,self)
  else
    let (old,rest) := split_sequence self.as_path
    let values := asns ++ old
    (.ok (),{ self with
      as_path := (chunks 255 values.length values).reverse.foldl (fun path chunk => .Sequence chunk :: path) rest })

theorem foldl_insert (parts : List (List UInt32)) (rest : List AsPathSegment) :
    parts.reverse.foldl (fun path chunk => .Sequence chunk :: path) rest = parts.map .Sequence ++ rest := by
  induction parts with
  | nil => rfl
  | cons head tail ih => rw [List.reverse_cons,List.foldl_append,ih,List.map_cons,List.cons_append,List.foldl_cons,List.foldl_nil]

/-- Editing in place does what `prepend` computes, and a refusal leaves the attributes alone. -/
theorem prepend_in_place_eq (self : BgpAttributes) (asns : List UInt32) :
    self.prepend_in_place asns = match self.prepend asns with
      | .ok after => (.ok (),after)
      | .error error => (.error error,self) := by
  unfold prepend_in_place prepend
  by_cases refused : (asns.contains 0 || 1024 < asns.length + (self.as_path.map (·.members.length)).sum : Bool) = true
  · rw [if_pos refused,if_pos refused]
  · rw [if_neg refused,if_neg refused]
    simp only [foldl_insert]

/-- A successful edit: the path is the chunks in front of what follows the first sequence. -/
theorem prepend_ok {self after : BgpAttributes} {asns : List UInt32} (prepended : self.prepend asns = .ok after) :
    after = { self with as_path :=
      (chunks 255 (asns ++ (split_sequence self.as_path).1).length (asns ++ (split_sequence self.as_path).1)).map .Sequence ++
        (split_sequence self.as_path).2 } := by
  unfold prepend at prepended
  by_cases refused : (asns.contains 0 || 1024 < asns.length + (self.as_path.map (·.members.length)).sum : Bool) = true
  · rw [if_pos refused] at prepended
    cases prepended
  · rw [if_neg refused] at prepended
    cases prepended
    rfl

/-! ### What a path in front of another path adds -/

theorem leading_sequences (parts : List (List UInt32)) (rest : List AsPathSegment) :
    leading (parts.map .Sequence ++ rest) = parts.flatten ++ leading rest := by
  induction parts with
  | nil => rfl
  | cons head tail ih =>
    have step : leading (.Sequence head :: (tail.map .Sequence ++ rest)) = head ++ leading (tail.map .Sequence ++ rest) := by
      simp [leading,AsPathSegment.isSequence,AsPathSegment.members]
    rw [List.map_cons,List.cons_append,step,ih,List.flatten_cons,List.append_assoc]

theorem later_sequences (parts : List (List UInt32)) (rest : List AsPathSegment) :
    later (parts.map .Sequence ++ rest) = later rest := by
  induction parts with
  | nil => rfl
  | cons head tail ih =>
    have step : later (.Sequence head :: (tail.map .Sequence ++ rest)) = later (tail.map .Sequence ++ rest) := by
      simp [later,AsPathSegment.isSequence]
    rw [List.map_cons,List.cons_append,step,ih]

theorem path_length_eq (self : BgpAttributes) : self.path_length = (self.as_path.map AsPathSegment.weight).sum := by
  rfl

theorem weight_sequences (parts : List (List UInt32)) :
    ((parts.map AsPathSegment.Sequence).map AsPathSegment.weight).sum = parts.flatten.length := by
  rw [List.length_flatten,List.map_map]
  rfl

theorem contains_sequences (parts : List (List UInt32)) (asn : UInt32) :
    (parts.map AsPathSegment.Sequence).any (·.members.contains asn) = parts.flatten.contains asn := by
  induction parts with
  | nil => rfl
  | cons head tail ih =>
    rw [List.map_cons,List.any_cons,ih,AsPathSegment.members,List.flatten_cons,List.contains_append]

/-- A path is the sequence that is taken apart, then the rest. -/
theorem split_sequence_sequences (path : List AsPathSegment) :
    ∃ parts : List (List UInt32), parts.flatten = (split_sequence path).1 ∧ path = parts.map .Sequence ++ (split_sequence path).2 := by
  match path with
  | [] => exact ⟨[],rfl,rfl⟩
  | .Set _ :: _ => exact ⟨[],rfl,rfl⟩
  | .Sequence members :: _ => exact ⟨[members],List.flatten_singleton,rfl⟩

/-- Prepending puts the given numbers, in their order, in front of the first sequence of
    the path and changes nothing behind it; a refusal changes nothing at all. -/
theorem prepend_exact (self : BgpAttributes) (asns : List UInt32) (counted : Counted self.as_path) :
    ((self.prepend_in_place asns).1 = .ok () →
      let after := (self.prepend_in_place asns).2
      leading after.as_path = asns ++ leading self.as_path ∧ later after.as_path = later self.as_path ∧
        Counted after.as_path ∧ after.path_length = self.path_length + asns.length ∧
        (∀ asn, after.contains_as asn = true ↔ self.contains_as asn = true ∨ asn ∈ asns) ∧
        { after with as_path := self.as_path } = self) ∧
    (∀ error, (self.prepend_in_place asns).1 = .error error → (self.prepend_in_place asns).2 = self) := by
  rw [prepend_in_place_eq]
  cases prepended : self.prepend asns with
  | error error => exact ⟨(by intro impossible; cases impossible),fun _ _ => rfl⟩
  | ok after =>
    refine ⟨fun _ => ?_,(by intro _ impossible; cases impossible)⟩
    obtain ⟨parts,first,path⟩ := split_sequence_sequences self.as_path
    have whole := chunks_flatten (show 0 < 255 by norm_num) (Nat.le_refl (asns ++ (split_sequence self.as_path).1).length)
    obtain rfl := prepend_ok prepended
    generalize (split_sequence self.as_path).1 = old at first whole
    generalize (split_sequence self.as_path).2 = rest at path
    refine ⟨?_,?_,?_,?_,?_,rfl⟩
    · rw [leading_sequences,whole,path,leading_sequences,first,List.append_assoc]
    · rw [later_sequences,path,later_sequences]
    · intro segment member
      rcases List.mem_append.mp member with new | kept
      · obtain ⟨chunk,inside,rfl⟩ := List.mem_map.mp new
        obtain ⟨nonempty,short,_⟩ := chunks_mem (by norm_num) inside
        exact ⟨List.length_pos_iff.mpr nonempty,short⟩
      · exact counted segment (path ▸ List.mem_append_right _ kept)
    · rw [path_length_eq,path_length_eq,path,List.map_append,List.sum_append,weight_sequences,whole,List.map_append,
        List.sum_append,weight_sequences,first,List.length_append]
      omega
    · intro asn
      rw [contains_as,contains_as,path]
      simp only [List.any_append,contains_sequences,whole,first,List.contains_append,Bool.or_eq_true,List.contains_iff_mem]
      tauto

/-- A path that starts with a sequence of two, in front of a set. -/
theorem prepend_exact_sequence :
    let self : BgpAttributes := ⟨.Igp,[.Sequence [7,8],.Set [9]],0,false,none,none,none,[],[]⟩
    self.prepend_in_place [5,6] = (.ok (),{ self with as_path := [.Sequence [5,6,7,8],.Set [9]] }) ∧
      (self.prepend_in_place [5,6]).2.path_length = self.path_length + 2 := by
  have counted : Counted [.Sequence [7,8],.Set [9]] := by
    intro segment member
    rcases List.mem_pair.mp member with rfl | rfl <;> decide
  have exact_ := prepend_exact ⟨.Igp,[.Sequence [7,8],.Set [9]],0,false,none,none,none,[],[]⟩ [5,6] counted
  exact ⟨rfl,(exact_.1 rfl).2.2.2.1⟩

end BgpAttributes

/-! ### Selection -/

theorem hop_order_injective {hop hop' : Option Ipv4Addr} (same : hop_order hop = hop_order hop') : hop = hop' := by
  cases hop <;> cases hop' <;> simp_all [hop_order]

/-- The least discriminator of a neighboring AS is one of its paths' and at most each of them. -/
theorem med_by_as_eq {candidates : List BgpPath} {first_as : Option UInt32} {med : UInt32} :
    med_by_as candidates first_as = some med ↔
      (∃ path ∈ candidates, path.attributes.first_as = first_as ∧ path.med = med) ∧
        ∀ path ∈ candidates, path.attributes.first_as = first_as → med ≤ path.med := by
  rw [med_by_as,List.min?_eq_some_iff]
  simp only [List.mem_map,List.mem_filter,decide_eq_true_eq,and_assoc]
  constructor
  · rintro ⟨held,least⟩
    exact ⟨held,fun path member same => least _ ⟨path,member,same,rfl⟩⟩
  · rintro ⟨held,least⟩
    exact ⟨held,by rintro _ ⟨path,member,same,rfl⟩; exact least path member same⟩

/-- What remains after the comparison of ranks and the comparison of discriminators
    within each neighboring AS. -/
structure Survives (paths : List BgpPath) (path : BgpPath) : Prop where
  member : path ∈ paths
  preferred : ∀ other ∈ paths, path.rank ≤ other.rank
  least : ∀ other ∈ paths, other.rank = path.rank → other.attributes.first_as = path.attributes.first_as →
    path.med ≤ other.med

/-- The choice among the survivors. -/
structure Chosen (paths : List BgpPath) (path : BgpPath) : Prop extends Survives paths path where
  first : ∀ other, Survives paths other → path.tie ≤ other.tie

/-- The paths that the last step of the selection compares. -/
def finalists (paths : List BgpPath) (best : UInt32ᵒᵈ ×ₗ Bool ×ₗ Nat ×ₗ UInt8) : List BgpPath :=
  (paths.filter (·.rank = best)).filter
    (fun path => med_by_as (paths.filter (·.rank = best)) path.attributes.first_as = some path.med)

theorem mem_finalists {paths : List BgpPath} {best : UInt32ᵒᵈ ×ₗ Bool ×ₗ Nat ×ₗ UInt8}
    (least : (paths.map BgpPath.rank).min? = some best) (path : BgpPath) :
    path ∈ finalists paths best ↔ Survives paths path := by
  obtain ⟨held,lowest⟩ := List.min?_eq_some_iff.mp least
  rw [finalists,List.mem_filter,List.mem_filter,decide_eq_true_eq,decide_eq_true_eq,med_by_as_eq]
  constructor
  · rintro ⟨⟨member,rank⟩,-,med⟩
    refine ⟨member,fun other inside => ?_,fun other inside same group => ?_⟩
    · exact rank ▸ lowest _ (List.mem_map_of_mem inside)
    · exact med other (List.mem_filter.mpr ⟨inside,by simpa using same.trans rank⟩) group
  · rintro ⟨member,preferred,med⟩
    have rank : path.rank = best := by
      obtain ⟨other,inside,same⟩ := List.mem_map.mp held
      exact le_antisymm (same ▸ preferred other inside) (lowest _ (List.mem_map_of_mem member))
    refine ⟨⟨member,rank⟩,⟨path,List.mem_filter.mpr ⟨member,by simpa using rank⟩,rfl,rfl⟩,fun other inside group => ?_⟩
    obtain ⟨inside,same⟩ := List.mem_filter.mp inside
    exact med other inside ((decide_eq_true_eq.mp same).trans rank.symm) group

/-- The selection returns a chosen path. -/
theorem chosen_of_best {paths : List BgpPath} {best : BgpPath} (selected : bgp_best_path paths = some best) :
    Chosen paths best := by
  unfold bgp_best_path at selected
  cases least : (paths.map BgpPath.rank).min? with
  | none => rw [least] at selected; cases selected
  | some rank =>
    rw [least] at selected
    have within : best ∈ (finalists paths rank).argmin BgpPath.tie := selected
    refine ⟨(mem_finalists least best).mp (List.argmin_mem within),fun other survives => ?_⟩
    exact List.le_of_mem_argmin ((mem_finalists least other).mpr survives) within

/-- There is a path among those of the best rank with the least discriminator of its neighboring AS. -/
theorem bgp_best_path_some {paths : List BgpPath} (nonempty : paths ≠ []) : ∃ best, bgp_best_path paths = some best := by
  cases least : (paths.map BgpPath.rank).min? with
  | none => exact absurd (List.map_eq_nil_iff.mp (List.min?_eq_none_iff.mp least)) nonempty
  | some rank =>
    obtain ⟨top,inside,same⟩ := List.mem_map.mp (List.min?_mem least)
    have candidate : top ∈ paths.filter (·.rank = rank) := List.mem_filter.mpr ⟨inside,by simpa using same⟩
    have finalist : ∃ path, path ∈ finalists paths rank := by
      cases group : med_by_as (paths.filter (·.rank = rank)) top.attributes.first_as with
      | none =>
        rw [med_by_as,List.min?_eq_none_iff,List.map_eq_nil_iff,List.filter_eq_nil_iff] at group
        exact absurd (decide_eq_true rfl) (group top candidate)
      | some med =>
        obtain ⟨⟨path,member,as,value⟩,-⟩ := med_by_as_eq.mp group
        exact ⟨path,List.mem_filter.mpr ⟨member,by rw [as,group,value]; exact decide_eq_true rfl⟩⟩
    obtain ⟨path,finalist⟩ := finalist
    cases selected : (finalists paths rank).argmin BgpPath.tie with
    | none => rw [List.argmin_eq_none.mp selected] at finalist; cases finalist
    | some best =>
      refine ⟨best,?_⟩
      unfold bgp_best_path
      rw [least]
      exact selected

/-- Where no two paths were learned from one peer there is one choice. -/
theorem chosen_unique {paths : List BgpPath} {one two : BgpPath} (distinct : (paths.map BgpPath.learned_from).Nodup)
    (first : Chosen paths one) (second : Chosen paths two) : one = two := by
  have tie : one.tie = two.tie := le_antisymm (first.first two second.toSurvives) (second.first one first.toSurvives)
  have peers : one.learned_from = two.learned_from := by
    simp only [BgpPath.tie,toLex_inj,Prod.mk.injEq] at tie
    exact hop_order_injective tie.2.2.2.2
  exact List.inj_on_of_nodup_map distinct first.member second.member peers

/-- What survives depends on which paths there are, and not on paths of a worse rank. -/
theorem survives_congr {paths more : List BgpPath} {best : BgpPath} (top : Survives paths best)
    (kept : ∀ path ∈ paths, path ∈ more) (added : ∀ path ∈ more, path ∈ paths ∨ best.rank < path.rank) (path : BgpPath) :
    Survives more path ↔ Survives paths path := by
  have lowest : ∀ other ∈ more, best.rank ≤ other.rank := fun other inside => (added other inside).elim (top.preferred other) le_of_lt
  have before : ∀ {other}, other ∈ more → other.rank ≤ best.rank → other ∈ paths := by
    intro other inside low
    exact (added other inside).resolve_right (not_lt.mpr low)
  constructor
  · intro survives
    have low := survives.preferred best (kept best top.member)
    refine ⟨before survives.member low,fun other inside => survives.preferred other (kept other inside),?_⟩
    exact fun other inside => survives.least other (kept other inside)
  · intro survives
    have low := survives.preferred best top.member
    refine ⟨kept path survives.member,fun other inside => low.trans (lowest other inside),fun other inside same => ?_⟩
    exact survives.least other (before inside (same ▸ low)) same

theorem chosen_congr {paths more : List BgpPath} {best : BgpPath} (top : Survives paths best)
    (kept : ∀ path ∈ paths, path ∈ more) (added : ∀ path ∈ more, path ∈ paths ∨ best.rank < path.rank) {path : BgpPath}
    (chosen : Chosen more path) : Chosen paths path := by
  have same := survives_congr top kept added
  exact ⟨(same path).mp chosen.toSurvives,fun other survives => chosen.first other ((same other).mpr survives)⟩

/-- The selection is a choice: a best path exists, it is the only path that is chosen in the sense
    of the three steps, and neither the order of the paths nor more paths that lose the first step change it. -/
theorem bgp_best_path_well_defined (paths : List BgpPath) (nonempty : paths ≠ [])
    (distinct : (paths.map BgpPath.learned_from).Nodup) :
    ∃ best, bgp_best_path paths = some best ∧ Chosen paths best ∧ (∀ other, Chosen paths other → other = best) ∧
      (∀ permuted, permuted.Perm paths → bgp_best_path permuted = some best) ∧
      ∀ losers, (∀ loser ∈ losers, best.rank < loser.rank) →
        ∀ mixed, mixed.Perm (paths ++ losers) → bgp_best_path mixed = some best := by
  obtain ⟨best,selected⟩ := bgp_best_path_some nonempty
  have chosen := chosen_of_best selected
  have mixed : ∀ losers, (∀ loser ∈ losers, best.rank < loser.rank) →
      ∀ mixed, mixed.Perm (paths ++ losers) → bgp_best_path mixed = some best := by
    intro losers worse mixed perm
    have within : ∀ path, path ∈ mixed ↔ path ∈ paths ∨ path ∈ losers := by
      intro path
      rw [perm.mem_iff,List.mem_append]
    have kept : ∀ path ∈ paths, path ∈ mixed := fun path inside => (within path).mpr (.inl inside)
    obtain ⟨other,found⟩ := bgp_best_path_some (List.ne_nil_of_mem (kept best chosen.member))
    have back : Chosen paths other := by
      refine chosen_congr chosen.toSurvives kept (fun path inside => ?_) (chosen_of_best found)
      exact ((within path).mp inside).imp_right (worse path)
    rw [found,chosen_unique distinct back chosen]
  refine ⟨best,selected,chosen,fun other also => chosen_unique distinct also chosen,fun permuted perm => ?_,mixed⟩
  exact mixed [] (by intro _ impossible; cases impossible) permuted (by rwa [List.append_nil])

/-- A path through the neighboring AS 7. -/
def via (peer : Ipv4Addr) (med preference : UInt32) : BgpPath :=
  ⟨Routing.default_network,⟨.Igp,[.Sequence [7]],peer,false,some med,some preference,none,[],[]⟩,some peer,peer,true,0⟩

/-- The least discriminator wins over the least peer, and a lower preference loses, in both orders. -/
theorem bgp_best_path_well_defined_three :
    bgp_best_path [via 3 5 100,via 1 9 100,via 2 0 50] = some (via 3 5 100) ∧
      bgp_best_path [via 2 0 50,via 1 9 100,via 3 5 100] = some (via 3 5 100) := by
  have first : bgp_best_path [via 3 5 100,via 1 9 100,via 2 0 50] = some (via 3 5 100) := by decide
  obtain ⟨best,selected,-,-,perm,-⟩ :=
    bgp_best_path_well_defined [via 3 5 100,via 1 9 100,via 2 0 50] (by simp) (by decide)
  have turned : bgp_best_path [via 2 0 50,via 1 9 100,via 3 5 100] = some best := perm _ (List.reverse_perm [_,_,_])
  rw [turned,← selected]
  exact ⟨first,first⟩

end Rios.Bgp
