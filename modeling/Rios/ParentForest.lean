import Mathlib

/-!
# Multigraphs with parent links

A multigraph is a relation on darts, each of which leaves one vertex. When every
link runs from the dart of a child to a parent of smaller rank, and no vertex
has two such darts, no trail is closed. When only roots lack such a dart, every
vertex is joined to a root.
-/

namespace Rios.ParentForest

variable {V D : Type*} {link : D → D → Prop} {src : D → V} {up : D → Prop} {rank : V → Nat}

/-- A walk from one vertex to another, with the darts it leaves and enters by. -/
inductive Walk (link : D → D → Prop) (src : D → V) : V → List (D × D) → V → Prop where
  | nil (v : V) : Walk link src v [] v
  | cons {d e : D} {w : V} {rest : List (D × D)} (joined : link d e) (later : Walk link src (src e) rest w) :
      Walk link src (src d) ((d,e) :: rest) w

theorem Walk.of_nil {v w : V} (walk : Walk link src v [] w) : v = w := by
  cases walk with
  | nil => rfl

theorem Walk.uncons {v w : V} {f g : D} {rest : List (D × D)} (walk : Walk link src v ((f,g) :: rest) w) :
    link f g ∧ v = src f ∧ Walk link src (src g) rest w := by
  cases walk with
  | cons joined later => exact ⟨joined,rfl,later⟩

/-- A trail uses no link twice, in either direction. -/
def Trail (steps : List (D × D)) : Prop := steps.Pairwise (fun first second => second ≠ first ∧ second ≠ first.swap)

/-- A closed trail: a walk back to its start that uses some link, and none twice. -/
def ClosedTrail (link : D → D → Prop) (src : D → V) (steps : List (D × D)) : Prop :=
  steps ≠ [] ∧ Trail steps ∧ ∃ v, Walk link src v steps v

/-- Each link has the child's dart on one side and the parent, of smaller rank, on the other. -/
structure Oriented (link : D → D → Prop) (src : D → V) (up : D → Prop) (rank : V → Nat) : Prop where
  symmetric : ∀ {d e}, link d e → link e d
  single : ∀ {d e f}, link d e → link d f → e = f
  child : ∀ {d e}, link d e → (up d ∧ ¬ up e) ∨ (up e ∧ ¬ up d)
  parent : ∀ {d e}, up d → up e → src d = src e → d = e
  descends : ∀ {d e}, link d e → up d → rank (src e) < rank (src d)

/-- A trail that came down to a child does not turn back up. -/
private theorem no_turn (oriented : Oriented link src up rank) {d e f g : D} (first : link d e) (second : link f g)
    (meet : src e = src f) (distinct : (f,g) ≠ (d,e).swap) (down : up e) : up g := by
  rcases oriented.child second with ⟨rises,-⟩ | ⟨falls,-⟩
  · have same : e = f := oriented.parent down rises meet
    subst same
    have back : d = g := oriented.single (oriented.symmetric first) second
    exact absurd (by rw [back]; rfl) distinct
  · exact falls

/-- A trail that starts downwards gains rank. -/
private theorem rank_lt_of_down (oriented : Oriented link src up rank) {v w : V} {steps : List (D × D)}
    (walk : Walk link src v steps w) (trail : Trail steps) (down : ∀ step ∈ steps.head?, up step.2) (nonempty : steps ≠ []) :
    rank v < rank w := by
  induction walk with
  | nil => exact absurd rfl nonempty
  | @cons d e w rest joined later ih =>
    have falls : up e := down (d,e) rfl
    have gains : rank (src d) < rank (src e) := oriented.descends (oriented.symmetric joined) falls
    obtain ⟨apart,others⟩ := List.pairwise_cons.mp trail
    rcases rest with _ | ⟨⟨f,g⟩,tail⟩
    · exact later.of_nil ▸ gains
    · obtain ⟨next,meets,-⟩ := later.uncons
      have turn : up g := no_turn oriented joined next meets (apart (f,g) List.mem_cons_self).2 falls
      have rest := ih others (fun step isFirst => by cases isFirst; exact turn) (List.cons_ne_nil _ _)
      omega

/-- A trail either only climbs, and loses rank, or enters its end through the end's own dart. -/
private theorem climbs_or_ends_down (oriented : Oriented link src up rank) {v w : V} {steps : List (D × D)}
    (walk : Walk link src v steps w) (trail : Trail steps) (nonempty : steps ≠ []) :
    (rank w < rank v ∧ ∀ step ∈ steps, up step.1) ∨ ∃ last ∈ steps, link last.1 last.2 ∧ up last.2 ∧ src last.2 = w := by
  induction walk with
  | nil => exact absurd rfl nonempty
  | @cons d e w rest joined later ih =>
    obtain ⟨apart,others⟩ := List.pairwise_cons.mp trail
    by_cases empty : rest = []
    · subst empty
      obtain rfl := later.of_nil
      rcases oriented.child joined with ⟨rises,-⟩ | ⟨falls,-⟩
      · exact .inl ⟨oriented.descends joined rises,by simpa using rises⟩
      · exact .inr ⟨(d,e),List.mem_cons_self,joined,falls,rfl⟩
    · rcases ih others empty with ⟨loses,climb⟩ | ⟨last,member,linked,falls,ends⟩
      · rcases oriented.child joined with ⟨rises,-⟩ | ⟨falls,-⟩
        · refine .inl ⟨loses.trans (oriented.descends joined rises),?_⟩
          intro step member
          rcases List.mem_cons.mp member with rfl | inRest
          · exact rises
          · exact climb step inRest
        · -- the second step would turn back up
          rcases rest with _ | ⟨⟨f,g⟩,tail⟩
          · exact absurd rfl empty
          · obtain ⟨next,meets,-⟩ := later.uncons
            have turn := no_turn oriented joined next meets (apart (f,g) List.mem_cons_self).2 falls
            have rises := climb (f,g) List.mem_cons_self
            rcases oriented.child next with ⟨-,no⟩ | ⟨-,no⟩
            · exact absurd turn no
            · exact absurd rises no
      · exact .inr ⟨last,List.mem_cons_of_mem _ member,linked,falls,ends⟩

/-- Parent links close no trail. -/
theorem no_closed_trail (oriented : Oriented link src up rank) (steps : List (D × D)) : ¬ ClosedTrail link src steps := by
  rintro ⟨nonempty,trail,v,walk⟩
  have ending := climbs_or_ends_down oriented walk trail nonempty
  have starting := rank_lt_of_down oriented walk trail
  cases walk with
  | nil => exact nonempty rfl
  | @cons d e _ rest joined later =>
    rcases oriented.child joined with ⟨rises,level⟩ | ⟨falls,-⟩
    · rcases ending with ⟨loses,-⟩ | ⟨⟨p,q⟩,member,linked,falls,ends⟩
      · exact lt_irrefl _ loses
      · -- the trail comes back through the dart it left by
        have same : q = d := oriented.parent falls rises ends
        subst same
        have back : e = p := oriented.single joined (oriented.symmetric linked)
        subst back
        rcases List.mem_cons.mp member with equal | inRest
        · exact level (by cases equal; exact rises)
        · exact ((List.pairwise_cons.mp trail).1 (e,q) inRest).2 rfl
    · exact lt_irrefl _ (starting (fun step isFirst => by cases isFirst; exact falls) nonempty)

/-- Two vertices with a link between them. -/
def Adjacent (link : D → D → Prop) (src : D → V) (v w : V) : Prop := ∃ d e, link d e ∧ src d = v ∧ src e = w

/-- Parent links lead from every vertex to a root. -/
theorem joined_to_root (oriented : Oriented link src up rank) {root : V → Prop}
    (climbs : ∀ v, root v ∨ ∃ d e, link d e ∧ up d ∧ src d = v) (v : V) :
    ∃ r, root r ∧ Relation.ReflTransGen (Adjacent link src) v r := by
  induction measured : rank v using Nat.strong_induction_on generalizing v with
  | _ n ih =>
    subst measured
    rcases climbs v with isRoot | ⟨d,e,joined,rises,rfl⟩
    · exact ⟨v,isRoot,.refl⟩
    · obtain ⟨r,isRoot,path⟩ := ih _ (oriented.descends joined rises) (src e) rfl
      exact ⟨r,isRoot,.head ⟨d,e,joined,rfl,rfl⟩ path⟩

end Rios.ParentForest
