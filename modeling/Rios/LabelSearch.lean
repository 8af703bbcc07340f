import Rios.Heap

/-!
# Label-correcting search

Vertices carry labels from a linear order; a vertex that gets a smaller label is
put on a heap, and a popped vertex whose entry is still current offers labels to
its neighbours. The order in which the heap pops makes no difference to what
holds at the end: every label is derived from the root, and no label in the
result could still be improved.
-/

namespace Rios.LabelSearch

variable {V L : Type} [LinearOrder V] [LinearOrder L] {cmp : L × V → L × V → Ordering}

/-- Labels found so far, and the entries still to be looked at. -/
structure State (V L : Type) [LinearOrder V] (cmp : L × V → L × V → Ordering) (heap : MaxHeap (L × V) cmp) where
  paths : OrderedMap V L
  pending : heap.Carrier

variable {heap : MaxHeap (L × V) cmp}

/-- The state that knows the root only. -/
def initial (heap : MaxHeap (L × V) cmp) (root : V) (label : L) : State V L cmp heap :=
  ⟨OrderedMap.empty.insert root label,heap.push (label,root) heap.empty⟩

/-- Take an offered label if it is the first or the smaller one. The root keeps its label. -/
def relax (root : V) (state : State V L cmp heap) (offer : V × L) : State V L cmp heap :=
  if offer.1 ≠ root ∧ (state.paths.get? offer.1).all (offer.2 < ·) then
    ⟨state.paths.insert offer.1 offer.2,heap.push (offer.2,offer.1) state.pending⟩
  else state

variable (root : V) (offers : V → L → List (V × L))

/-- One round: entries that are no longer current are skipped. -/
def step (state : State V L cmp heap) : Option (State V L cmp heap) :=
  match heap.pop state.pending with
  | none => none
  | some ((label,current),rest) =>
    if state.paths.get? current ≠ some label then some { state with pending := rest }
    else some ((offers current label).foldl (relax root) { state with pending := rest })

/-- What a round does: it skips an entry, or takes the offers of a current one. -/
theorem step_cases {state next : State V L cmp heap} (moved : step root offers state = some next) :
    ∃ label current rest, heap.contents state.pending = (label,current) ::ₘ heap.contents rest ∧
      ((state.paths.get? current ≠ some label ∧ next = ⟨state.paths,rest⟩) ∨
        (state.paths.get? current = some label ∧
          next = (offers current label).foldl (relax root) ⟨state.paths,rest⟩)) := by
  unfold step at moved
  split at moved
  · cases moved
  · rename_i label current rest popped
    refine ⟨label,current,rest,(heap.pop_some _ _ _ popped).1,?_⟩
    by_cases stale : state.paths.get? current ≠ some label
    · rw [if_pos stale] at moved
      exact .inl ⟨stale,(Option.some.inj moved).symm⟩
    · rw [if_neg stale] at moved
      exact .inr ⟨not_not.mp stale,(Option.some.inj moved).symm⟩

/-- No round is left exactly when nothing is pending. -/
theorem step_eq_none (state : State V L cmp heap) : step root offers state = none ↔ heap.contents state.pending = 0 := by
  rw [← heap.pop_eq_none]
  unfold step
  constructor
  · intro stuck
    split at stuck
    · assumption
    · split_ifs at stuck
  · intro empty
    rw [empty]

/-! ### Labels only decrease -/

/-- Every label is kept or replaced by a smaller one. -/
def Improves (before after : OrderedMap V L) : Prop :=
  ∀ vertex label, before.get? vertex = some label → ∃ smaller ≤ label, after.get? vertex = some smaller

theorem Improves.refl (paths : OrderedMap V L) : Improves paths paths := fun _ label found => ⟨label,le_rfl,found⟩

/-- What an offer does: nothing, or it lowers one label and puts it on the heap. -/
theorem relax_cases (state : State V L cmp heap) (offer : V × L) :
    (relax root state offer = state ∧
      (offer.1 = root ∨ ∃ old ≤ offer.2, state.paths.get? offer.1 = some old)) ∨
    (offer.1 ≠ root ∧ (∀ old, state.paths.get? offer.1 = some old → offer.2 < old) ∧
      relax root state offer =
        ⟨state.paths.insert offer.1 offer.2,heap.push (offer.2,offer.1) state.pending⟩) := by
  unfold relax
  by_cases better : offer.1 ≠ root ∧ (state.paths.get? offer.1).all (offer.2 < ·)
  · rw [if_pos better]
    obtain ⟨other,lower⟩ := better
    refine .inr ⟨other,fun old found => ?_,rfl⟩
    rw [found] at lower
    simpa using lower
  · rw [if_neg better]
    refine .inl ⟨rfl,?_⟩
    by_cases same : offer.1 = root
    · exact .inl same
    · cases found : state.paths.get? offer.1 with
      | none => exact absurd ⟨same,by rw [found]; rfl⟩ better
      | some old =>
        refine .inr ⟨old,?_,rfl⟩
        by_contra above
        exact better ⟨same,by rw [found]; simpa using not_le.mp above⟩

theorem relax_improves (state : State V L cmp heap) (offer : V × L) :
    Improves state.paths (relax root state offer).paths := by
  rcases relax_cases root state offer with ⟨same,-⟩ | ⟨-,lower,taken⟩
  · rw [same]
    exact .refl _
  · rw [taken]
    intro vertex label found
    rw [OrderedMap.get?_insert]
    by_cases target : vertex = offer.1
    · rw [if_pos target]
      exact ⟨offer.2,(lower label (target ▸ found)).le,rfl⟩
    · rw [if_neg target]
      exact ⟨label,le_rfl,found⟩

/-! ### Termination -/

section Termination
variable [Finite V] [Finite L]

/-- How many labels a vertex can still go through. -/
noncomputable def headroom (paths : OrderedMap V L) (vertex : V) : Nat :=
  match paths.get? vertex with
  | none => Nat.card L
  | some label => Nat.card {lower : L // lower < label}

open Classical in
/-- How many labels all vertices together can still go through. -/
noncomputable def totalHeadroom (paths : OrderedMap V L) : Nat :=
  letI := Fintype.ofFinite V
  ∑ vertex : V, headroom paths vertex

/-- A smaller label lowers the total. -/
theorem totalHeadroom_insert {paths : OrderedMap V L} {vertex : V} {label : L}
    (lower : ∀ old, paths.get? vertex = some old → label < old) :
    totalHeadroom (paths.insert vertex label) < totalHeadroom paths := by
  let _ := Fintype.ofFinite V
  have drop : headroom (paths.insert vertex label) vertex < headroom paths vertex := by
    unfold headroom
    rw [OrderedMap.get?_insert_self]
    cases found : paths.get? vertex with
    | none => exact Finite.card_subtype_lt (lt_irrefl label)
    | some old =>
      have below := lower old found
      have inside : Set.ncard {smaller : L | smaller < label} < Set.ncard {smaller : L | smaller < old} := by
        refine Set.ncard_lt_ncard ⟨fun smaller less => less.trans below,fun all => ?_⟩
        exact lt_irrefl label (all below)
      exact inside
  refine Finset.sum_lt_sum (fun other _ => ?_) ⟨vertex,Finset.mem_univ vertex,drop⟩
  by_cases same : other = vertex
  · rw [same]
    exact drop.le
  · unfold headroom
    rw [OrderedMap.get?_insert,if_neg same]

/-- What bounds the number of rounds: every push is paid for by a smaller label. -/
noncomputable def measure (state : State V L cmp heap) : Nat :=
  totalHeadroom state.paths + (heap.contents state.pending).card

theorem relax_measure (state : State V L cmp heap) (offer : V × L) :
    measure (relax root state offer) ≤ measure state := by
  rcases relax_cases root state offer with ⟨same,-⟩ | ⟨-,lower,taken⟩
  · rw [same]
  · have paid := totalHeadroom_insert lower
    rw [taken]
    simp only [measure,heap.contents_push,Multiset.card_cons]
    omega

theorem step_measure {state next : State V L cmp heap} (moved : step root offers state = some next) :
    measure next < measure state := by
  have fold : ∀ (list : List (V × L)) (state : State V L cmp heap),
      measure (list.foldl (relax root) state) ≤ measure state := by
    intro list
    induction list with
    | nil => exact fun _ => le_rfl
    | cons offer rest ih => exact fun state => (ih _).trans (relax_measure root state offer)
  obtain ⟨label,current,rest,contents,outcome⟩ := step_cases root offers moved
  have popped : measure (⟨state.paths,rest⟩ : State V L cmp heap) < measure state := by
    simp only [measure,contents,Multiset.card_cons]
    omega
  rcases outcome with ⟨-,rfl⟩ | ⟨-,rfl⟩
  · exact popped
  · exact (fold _ _).trans_lt popped

end Termination

/-- The loop: rounds until nothing is pending. -/
def search [Finite V] [Finite L] (state : State V L cmp heap) : State V L cmp heap :=
  match _moved : step root offers state with
  | none => state
  | some next => search next
termination_by measure state
decreasing_by exact step_measure root offers _moved

section Loop
variable [Finite V] [Finite L]

theorem search_of_step {state next : State V L cmp heap} (moved : step root offers state = some next) :
    search root offers state = search root offers next := by
  rw [search]
  split
  · rename_i stuck
    rw [stuck] at moved
    cases moved
  · rename_i other step
    rw [moved] at step
    rw [Option.some.inj step]

theorem search_of_stuck {state : State V L cmp heap} (stuck : step root offers state = none) :
    search root offers state = state := by
  rw [search]
  split
  · rfl
  · rename_i next step
    rw [stuck] at step
    cases step

/-- What every round preserves holds at the end, where no round is left. -/
theorem search_rule {I : State V L cmp heap → Prop}
    (preserved : ∀ state next, I state → step root offers state = some next → I next) {state : State V L cmp heap}
    (start : I state) : I (search root offers state) ∧ step root offers (search root offers state) = none := by
  induction measured : measure state using Nat.strong_induction_on generalizing state with
  | _ size ih =>
    subst measured
    cases moved : step root offers state with
    | none =>
      rw [search_of_stuck root offers moved]
      exact ⟨start,moved⟩
    | some next =>
      rw [search_of_step root offers moved]
      exact ih (measure next) (step_measure root offers moved) (preserved state next start moved) rfl

end Loop

/-! ### Derived labels -/

/-- The labels that offers lead to from the root. -/
inductive Derived (label : L) : V → L → Prop
  | root : Derived label root label
  | offer {vertex : V} {own : L} {offered : V × L} : Derived label vertex own → offered ∈ offers vertex own →
      offered.1 ≠ root → Derived label offered.1 offered.2

/-- Every label is derived, and the root has its own. -/
structure Sound (label : L) (paths : OrderedMap V L) : Prop where
  derived : ∀ vertex own, paths.get? vertex = some own → Derived root offers label vertex own
  root : paths.get? root = some label

theorem step_sound {label : L} {state next : State V L cmp heap} (sound : Sound root offers label state.paths)
    (moved : step root offers state = some next) : Sound root offers label next.paths := by
  obtain ⟨own,current,rest,-,⟨-,rfl⟩ | ⟨isCurrent,rfl⟩⟩ := step_cases root offers moved
  · exact sound
  · have derived := sound.derived current own isCurrent
    -- every offer that is taken comes from the current vertex
    have fold : ∀ (list : List (V × L)) (state : State V L cmp heap), (∀ offer ∈ list, offer ∈ offers current own) →
        Sound root offers label state.paths → Sound root offers label (list.foldl (relax root) state).paths := by
      intro list
      induction list with
      | nil => exact fun _ _ sound => sound
      | cons offer rest ih =>
        intro state offered sound
        refine ih _ (fun other member => offered other (List.mem_cons_of_mem offer member)) ?_
        rcases relax_cases root state offer with ⟨same,-⟩ | ⟨other,-,taken⟩
        · rw [same]
          exact sound
        · rw [taken]
          constructor
          · intro vertex new found
            rw [OrderedMap.get?_insert] at found
            by_cases target : vertex = offer.1
            · rw [if_pos target] at found
              cases found
              rw [target]
              exact .offer derived (offered offer List.mem_cons_self) other
            · rw [if_neg target] at found
              exact sound.derived vertex new found
          · rw [OrderedMap.get?_insert,if_neg (Ne.symm other)]
            exact sound.root
    exact fold _ _ (fun _ member => member) sound

/-! ### Final labels -/

/-- No offer of a vertex could still improve a label. -/
def Settled (paths : OrderedMap V L) (vertex : V) (own : L) : Prop :=
  ∀ offer ∈ offers vertex own, offer.1 = root ∨ ∃ old ≤ offer.2, paths.get? offer.1 = some old

theorem Settled.improves {before after : OrderedMap V L} {vertex : V} {own : L}
    (settled : Settled root offers before vertex own) (improves : Improves before after) :
    Settled root offers after vertex own := by
  intro offer member
  rcases settled offer member with same | ⟨old,below,found⟩
  · exact .inl same
  · obtain ⟨smaller,lower,later⟩ := improves offer.1 old found
    exact .inr ⟨smaller,lower.trans below,later⟩

/-- Every label is settled or still pending. -/
def Explored (state : State V L cmp heap) : Prop :=
  ∀ vertex own, state.paths.get? vertex = some own →
    (own,vertex) ∈ heap.contents state.pending ∨ Settled root offers state.paths vertex own

theorem step_explored {state next : State V L cmp heap} (explored : Explored root offers state)
    (moved : step root offers state = some next) : Explored root offers next := by
  obtain ⟨label,current,rest,contents,outcome⟩ := step_cases root offers moved
  rcases outcome with ⟨stale,rfl⟩ | ⟨isCurrent,rfl⟩
  · intro vertex own found
    rcases explored vertex own found with waiting | settled
    · rw [contents,Multiset.mem_cons] at waiting
      rcases waiting with popped | other
      · cases popped
        exact absurd found stale
      · exact .inl other
    · exact .inr settled
  · -- while its offers are taken, only the current entry is neither pending nor settled
    have fold : ∀ (list : List (V × L)) (state : State V L cmp heap),
        (∀ vertex own, state.paths.get? vertex = some own → (own,vertex) ∈ heap.contents state.pending ∨
          Settled root offers state.paths vertex own ∨ (vertex = current ∧ own = label)) →
        (∀ offer ∈ offers current label, offer ∈ list ∨ offer.1 = root ∨
          ∃ old ≤ offer.2, state.paths.get? offer.1 = some old) →
        Explored root offers (list.foldl (relax root) state) := by
      intro list
      induction list with
      | nil =>
        intro state others taken vertex own found
        rcases others vertex own found with waiting | settled | ⟨rfl,rfl⟩
        · exact .inl waiting
        · exact .inr settled
        · refine .inr (fun offer member => ?_)
          rcases taken offer member with none | done
          · cases none
          · exact done
      | cons offer rest ih =>
        intro state others taken
        have improves := relax_improves root state offer
        refine ih _ ?_ ?_
        · intro vertex own found
          rcases relax_cases root state offer with ⟨same,-⟩ | ⟨-,-,changed⟩
          · rw [same] at found ⊢
            exact others vertex own found
          · rw [changed] at found
            simp only [OrderedMap.get?_insert] at found
            by_cases target : vertex = offer.1
            · rw [if_pos target] at found
              cases found
              rw [changed,target]
              simp only [heap.contents_push]
              exact .inl (Multiset.mem_cons_self _ _)
            · rw [if_neg target] at found
              rcases others vertex own found with waiting | settled | same
              · rw [changed]
                simp only [heap.contents_push]
                exact .inl (Multiset.mem_cons_of_mem waiting)
              · exact .inr (.inl (settled.improves root offers improves))
              · exact .inr (.inr same)
        · intro other member
          rcases taken other member with inList | isRoot | ⟨old,below,found⟩
          · rcases List.mem_cons.mp inList with rfl | later
            · refine .inr ?_
              rcases relax_cases root state other with ⟨same,done⟩ | ⟨-,-,changed⟩
              · rw [same]
                exact done
              · rw [changed]
                exact .inr ⟨other.2,le_rfl,OrderedMap.get?_insert_self _ _ _⟩
            · exact .inl later
          · exact .inr (.inl isRoot)
          · obtain ⟨smaller,lower,now⟩ := improves other.1 old found
            exact .inr (.inr ⟨smaller,lower.trans below,now⟩)
    refine fold _ _ ?_ (fun offer member => .inl member)
    intro vertex own found
    rcases explored vertex own found with waiting | settled
    · rw [contents,Multiset.mem_cons] at waiting
      rcases waiting with popped | other
      · cases popped
        exact .inr (.inr ⟨rfl,rfl⟩)
      · exact .inl other
    · exact .inr (.inl settled)

omit [LinearOrder L] in
/-- At the start only the root has a label. -/
theorem initial_paths (heap : MaxHeap (L × V) cmp) (label : L) {vertex : V} {own : L}
    (found : (initial heap root label).paths.get? vertex = some own) : vertex = root ∧ own = label := by
  simp only [initial,OrderedMap.get?_insert] at found
  by_cases same : vertex = root
  · rw [if_pos same] at found
    exact ⟨same,(Option.some.inj found).symm⟩
  · rw [if_neg same] at found
    cases found

omit [LinearOrder L] in
theorem initial_sound (heap : MaxHeap (L × V) cmp) (label : L) :
    Sound root offers label (initial heap root label).paths := by
  constructor
  · intro vertex own found
    obtain ⟨rfl,rfl⟩ := initial_paths root heap label found
    exact .root
  · exact OrderedMap.get?_insert_self _ _ _

/-- The result of a search from a root: derived labels that no offer improves. -/
theorem search_correct [Finite V] [Finite L] (heap : MaxHeap (L × V) cmp) (label : L) :
    Sound root offers label (search root offers (initial heap root label)).paths ∧
      ∀ vertex own, (search root offers (initial heap root label)).paths.get? vertex = some own →
        Settled root offers (search root offers (initial heap root label)).paths vertex own := by
  have start : Sound root offers label (initial heap root label).paths ∧ Explored root offers (initial heap root label) := by
    refine ⟨initial_sound root offers heap label,fun vertex own found => ?_⟩
    obtain ⟨rfl,rfl⟩ := initial_paths root heap label found
    simp only [initial,heap.contents_push]
    exact .inl (Multiset.mem_cons_self _ _)
  obtain ⟨⟨sound,explored⟩,stuck⟩ := search_rule root offers
    (I := fun state => Sound root offers label state.paths ∧ Explored root offers state)
    (fun state next before moved => ⟨step_sound root offers before.1 moved,step_explored root offers before.2 moved⟩) start
  refine ⟨sound,fun vertex own found => ?_⟩
  rcases explored vertex own found with waiting | settled
  · rw [(step_eq_none root offers _).mp stuck] at waiting
    exact absurd waiting (Multiset.notMem_zero _)
  · exact settled

/-! ### The rounds of a run -/

/-- The state after a number of rounds, if the loop makes as many. -/
def rounds : Nat → State V L cmp heap → Option (State V L cmp heap)
  | 0, state => some state
  | n+1, state => (step root offers state).bind (rounds n)

theorem rounds_succ (n : Nat) (state : State V L cmp heap) :
    rounds root offers (n+1) state = (step root offers state).bind (rounds root offers n) := rfl

/-- What every round preserves holds after any number of them. -/
theorem rounds_rule {I : State V L cmp heap → Prop}
    (preserved : ∀ state next, I state → step root offers state = some next → I next) (n : Nat)
    {state later : State V L cmp heap} (start : I state) (made : rounds root offers n state = some later) : I later := by
  induction n generalizing state with
  | zero =>
    cases made
    exact start
  | succ n ih =>
    rw [rounds_succ,Option.bind_eq_some_iff] at made
    obtain ⟨next,moved,rest⟩ := made
    exact ih (preserved state next start moved) rest

/-- The search is what as many rounds as possible lead to. -/
theorem rounds_search [Finite V] [Finite L] (state : State V L cmp heap) :
    ∃ n ≤ measure state, rounds root offers n state = some (search root offers state) := by
  induction measured : measure state using Nat.strong_induction_on generalizing state with
  | _ size ih =>
    subst measured
    cases moved : step root offers state with
    | none =>
      refine ⟨0,Nat.zero_le _,?_⟩
      rw [search_of_stuck root offers moved]
      rfl
    | some next =>
      have lower := step_measure root offers moved
      obtain ⟨n,bound,made⟩ := ih _ lower next rfl
      refine ⟨n+1,by omega,?_⟩
      rw [rounds_succ,moved,search_of_step root offers moved]
      exact made

/-- The insertion of a vertex with a label that is new or smaller than its own. -/
inductive Insertion (before : State V L cmp heap) : State V L cmp heap → Prop
  | lower {vertex : V} {label : L} : vertex ≠ root → (∀ old, before.paths.get? vertex = some old → label < old) →
      Insertion before ⟨before.paths.insert vertex label,heap.push (label,vertex) before.pending⟩

theorem foldl_insertions (list : List (V × L)) (state : State V L cmp heap) :
    Relation.ReflTransGen (Insertion root) state (list.foldl (relax root) state) := by
  induction list generalizing state with
  | nil => exact .refl
  | cons offer rest ih =>
    rw [List.foldl_cons]
    rcases relax_cases root state offer with ⟨same,-⟩ | ⟨other,lower,taken⟩
    · rw [same]
      exact ih state
    · rw [taken]
      exact .head (.lower other lower) (ih _)

/-- A round discards a stale entry, or expands a current one by insertions. -/
inductive Round (before : State V L cmp heap) : State V L cmp heap → Prop
  | stale {vertex : V} {label : L} {rest : heap.Carrier} :
      heap.contents before.pending = (label,vertex) ::ₘ heap.contents rest →
      before.paths.get? vertex ≠ some label → Round before ⟨before.paths,rest⟩
  | current {vertex : V} {label : L} {rest : heap.Carrier} {after : State V L cmp heap} :
      heap.contents before.pending = (label,vertex) ::ₘ heap.contents rest →
      before.paths.get? vertex = some label →
      Relation.ReflTransGen (Insertion root) ⟨before.paths,rest⟩ after → Round before after

theorem step_round {state next : State V L cmp heap} (moved : step root offers state = some next) :
    Round root state next := by
  obtain ⟨label,current,rest,contents,⟨stale,rfl⟩ | ⟨isCurrent,rfl⟩⟩ := step_cases root offers moved
  · exact .stale contents stale
  · exact .current contents isCurrent (foldl_insertions root _ _)

/-- The total of the labels that are left is at most all labels at all vertices. -/
theorem totalHeadroom_le [Finite V] [Finite L] (paths : OrderedMap V L) :
    totalHeadroom paths ≤ Nat.card V * Nat.card L := by
  let _ := Fintype.ofFinite V
  have each : ∀ vertex ∈ (Finset.univ : Finset V), headroom paths vertex ≤ Nat.card L := by
    intro vertex _
    unfold headroom
    split
    · exact le_rfl
    · exact Finite.card_subtype_le _
  refine (Finset.sum_le_card_nsmul _ _ _ each).trans ?_
  rw [Finset.card_univ,← Nat.card_eq_fintype_card,smul_eq_mul]

/-- What makes the loop from a root end: it gets to a state without a further round, every round is a discarded
entry or insertions of smaller labels, and these are derived labels, finitely many and well-founded. -/
structure Ends (heap : MaxHeap (L × V) cmp) (label : L) [Finite V] [Finite L] : Prop where
  stops : ∃ n ≤ Nat.card V * Nat.card L + 1,
    rounds root offers n (initial heap root label) = some (search root offers (initial heap root label)) ∧
      step root offers (search root offers (initial heap root label)) = none
  round : ∀ n state next, rounds root offers n (initial heap root label) = some state →
    step root offers state = some next → Round root state next
  values : ∀ n state vertex own, rounds root offers n (initial heap root label) = some state →
    state.paths.get? vertex = some own → Derived root offers label vertex own
  finite : {own | ∃ vertex, Derived root offers label vertex own}.Finite
  wellFounded : WellFounded (fun smaller larger : L => smaller < larger)

theorem search_ends (heap : MaxHeap (L × V) cmp) (label : L) [Finite V] [Finite L] : Ends root offers heap label := by
  constructor
  · obtain ⟨n,bound,made⟩ := rounds_search root offers (initial heap root label)
    have total := totalHeadroom_le (initial heap root label).paths
    have pending : (heap.contents (initial heap root label).pending).card = 1 := by
      simp only [initial,heap.contents_push,heap.contents_empty,Multiset.card_cons,Multiset.card_zero]
    refine ⟨n,?_,made,?_⟩
    · unfold measure at bound
      omega
    · exact (search_rule root offers (I := fun _ => True) (fun _ _ _ _ => trivial) trivial).2
  · exact fun _ _ _ _ moved => step_round root offers moved
  · intro n state vertex own made found
    have sound := rounds_rule root offers (I := fun state => Sound root offers label state.paths)
      (fun _ _ sound moved => step_sound root offers sound moved) n (initial_sound root offers heap label) made
    exact sound.derived vertex own found
  · exact Set.toFinite _
  · exact wellFounded_lt

end Rios.LabelSearch
