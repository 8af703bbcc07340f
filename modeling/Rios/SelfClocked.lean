import Mathlib

/-!
# Self-clocked fair queueing

Queues of finish tags over a common virtual time. An arriving job is tagged
behind its queue's last tag or the virtual time, whichever is later; a departing
job moves the virtual time to its tag. A greedy queue is never passed over by a
larger tag. As long as no reset happens, a greedy queue is served at most as
much as the virtual time advances, plus one job; one that is never empty is
served at least as much, less one job.
-/

namespace Rios.SelfClocked

/-- The service a queued job asks for and the tag at which it is finished. -/
structure Tag where
  service : Nat
  finish : Nat
deriving DecidableEq

/-- The virtual time, the queued tags and the last tag given out, by queue. -/
@[ext] structure Clock (ι : Type*) where
  virtual : Nat
  queue : ι → List Tag
  last : ι → Nat

variable {ι : Type*} [DecidableEq ι]

namespace Clock

/-- A job arrives at a queue. -/
def arrive (c : Clock ι) (k : ι) (service : Nat) : Clock ι where
  virtual := c.virtual
  queue := Function.update c.queue k (c.queue k ++ [⟨service,max (c.last k) c.virtual + service⟩])
  last := Function.update c.last k (max (c.last k) c.virtual + service)

/-- The first job of a queue departs and leaves the given ones. -/
def depart (c : Clock ι) (k : ι) (tag : Tag) (rest : List Tag) : Clock ι where
  virtual := max c.virtual tag.finish
  queue := Function.update c.queue k rest
  last := c.last

/-- Where the next job of a queue starts: the start of its first tag, or the
    virtual time while it is empty. -/
def start (c : Clock ι) (k : ι) : Nat :=
  match c.queue k with
  | [] => c.virtual
  | tag :: _ => tag.finish - tag.service

end Clock

/-- One step, with the queue and service of the job that departs in it. -/
inductive Step (greedy : ι → Prop) (bound : ι → Nat) : Clock ι → List (ι × Nat) → Clock ι → Prop where
  | stay (c : Clock ι) : Step greedy bound c [] c
  | arrive (c : Clock ι) (k : ι) (service : Nat) (fits : service ≤ bound k) : Step greedy bound c [] (c.arrive k service)
  | depart (c : Clock ι) (k : ι) (tag : Tag) (rest : List Tag) (first : c.queue k = tag :: rest)
      (least : ∀ i, greedy i → ∀ other ∈ (c.queue i).head?, tag.finish ≤ other.finish) :
      Step greedy bound c [(k,tag.service)] (c.depart k tag rest)

/-- Each tag lies its own service behind the one before it, up to the last tag given out. -/
def Chained (tag : Tag) : List Tag → Nat → Prop
  | [], last => last = tag.finish
  | next :: rest, last => next.finish = tag.finish + next.service ∧ Chained next rest last

/-- The tags of one queue against the virtual time: the first one does not lie
    behind it and did not start after it, and the others follow in a chain. -/
def Follows (virtual : Nat) : List Tag → Nat → Prop
  | [], last => last ≤ virtual
  | tag :: rest, last =>
    virtual ≤ tag.finish ∧ tag.finish ≤ virtual + tag.service ∧ tag.service ≤ tag.finish ∧ Chained tag rest last

/-- Every greedy queue follows the virtual time with jobs within its bound. -/
structure Tagged (greedy : ι → Prop) (bound : ι → Nat) (c : Clock ι) : Prop where
  follows : ∀ k, greedy k → Follows c.virtual (c.queue k) (c.last k)
  fits : ∀ k, greedy k → ∀ tag ∈ c.queue k, tag.service ≤ bound k

variable {greedy : ι → Prop} {bound : ι → Nat} {c d : Clock ι} {served : List (ι × Nat)}

omit [DecidableEq ι] in
/-- A clock at rest: nothing queued, and no tag behind the virtual time. -/
theorem tagged_of_idle (idle : ∀ k, c.queue k = []) (behind : ∀ k, c.last k ≤ c.virtual) : Tagged greedy bound c where
  follows k _ := by simpa [idle k,Follows] using behind k
  fits k _ tag member := by simp [idle k] at member

private theorem chained_last_ge {tag : Tag} {rest : List Tag} {last : Nat} (chained : Chained tag rest last) :
    tag.finish ≤ last := by
  induction rest generalizing tag with
  | nil => exact chained.ge
  | cons next rest ih =>
    obtain ⟨follows,chained⟩ := chained
    have := ih chained
    omega

private theorem chained_append {tag : Tag} {rest : List Tag} {last : Nat} (service : Nat)
    (chained : Chained tag rest last) : Chained tag (rest ++ [⟨service,last + service⟩]) (last + service) := by
  induction rest generalizing tag with
  | nil =>
    have same : last = tag.finish := chained
    exact ⟨by rw [same],rfl⟩
  | cons next rest ih => exact ⟨chained.1,ih chained.2⟩

/-- A tag given to an arriving job follows the virtual time. -/
private theorem follows_arrive {virtual last : Nat} {tags : List Tag} (service : Nat)
    (follows : Follows virtual tags last) :
    Follows virtual (tags ++ [⟨service,max last virtual + service⟩]) (max last virtual + service) := by
  cases tags with
  | nil =>
    have behind : last ≤ virtual := follows
    rw [max_eq_right behind]
    refine ⟨?_,le_refl _,?_,rfl⟩ <;> simp
  | cons tag rest =>
    obtain ⟨ahead,started,positive,chained⟩ := follows
    -- the first tag is not behind the virtual time, so neither is the last one
    have notBehind : virtual ≤ last := ahead.trans (chained_last_ge chained)
    rw [max_eq_left notBehind]
    exact ⟨ahead,started,positive,chained_append service chained⟩

private theorem follows_pop {virtual last : Nat} {tag : Tag} {rest : List Tag}
    (follows : Follows virtual (tag :: rest) last) : Follows (max virtual tag.finish) rest last := by
  obtain ⟨ahead,-,-,chained⟩ := follows
  rw [max_eq_right ahead]
  cases rest with
  | nil => exact le_of_eq chained
  | cons next rest =>
    obtain ⟨next_finish,chained⟩ := chained
    exact ⟨by omega,by omega,by omega,chained⟩

private theorem follows_advance {virtual later last : Nat} {tags : List Tag} (follows : Follows virtual tags last)
    (advance : virtual ≤ later) (notPast : ∀ tag ∈ tags.head?, later ≤ tag.finish) : Follows later tags last := by
  cases tags with
  | nil =>
    have behind : last ≤ virtual := follows
    exact behind.trans advance
  | cons tag rest =>
    obtain ⟨ahead,started,positive,chained⟩ := follows
    exact ⟨notPast tag rfl,by omega,positive,chained⟩

theorem step_tagged (tagged : Tagged greedy bound c) (step : Step greedy bound c served d) : Tagged greedy bound d := by
  cases step with
  | stay => exact tagged
  | arrive k service fits =>
    refine ⟨fun i ordinary => ?_,fun i ordinary tag member => ?_⟩
    · by_cases same : i = k
      · subst same
        simpa [Clock.arrive] using follows_arrive service (tagged.follows i ordinary)
      · simpa [Clock.arrive,same] using tagged.follows i ordinary
    · by_cases same : i = k
      · subst same
        simp only [Clock.arrive,Function.update_self,List.mem_append,List.mem_singleton] at member
        rcases member with old | rfl
        · exact tagged.fits i ordinary tag old
        · exact fits
      · exact tagged.fits i ordinary tag (by simpa [Clock.arrive,same] using member)
  | depart k tag rest first least =>
    refine ⟨fun i ordinary => ?_,fun i ordinary other member => ?_⟩
    · have follows := tagged.follows i ordinary
      by_cases same : i = k
      · subst same
        rw [first] at follows
        simpa [Clock.depart] using follows_pop follows
      · have ahead : ∀ other ∈ (c.queue i).head?, max c.virtual tag.finish ≤ other.finish := by
          intro other isFirst
          refine max_le ?_ (least i ordinary other isFirst)
          cases queued : c.queue i with
          | nil => simp [queued] at isFirst
          | cons head tail =>
            rw [queued] at follows isFirst
            cases isFirst
            exact follows.1
        simpa [Clock.depart,same] using follows_advance follows (le_max_left _ _) ahead
    · by_cases same : i = k
      · subst same
        exact tagged.fits i ordinary other (by rw [first]; exact List.mem_cons_of_mem _ (by simpa [Clock.depart] using member))
      · exact tagged.fits i ordinary other (by simpa [Clock.depart,same] using member)

/-! ### What the queues are served -/

/-- The service that a queue received. -/
def total (k : ι) (served : List (ι × Nat)) : Nat := ((served.filter (·.1 = k)).map (·.2)).sum

@[simp] theorem total_nil (k : ι) : total k [] = 0 := rfl

@[simp] theorem total_append (k : ι) (first second : List (ι × Nat)) :
    total k (first ++ second) = total k first + total k second := by simp [total]

theorem total_one (k j : ι) (service : Nat) : total k [(j,service)] = if j = k then service else 0 := by
  by_cases same : j = k <;> simp [total,same]

omit [DecidableEq ι] in
theorem start_le_virtual (tagged : Tagged greedy bound c) {k : ι} (ordinary : greedy k) : c.start k ≤ c.virtual := by
  have follows := tagged.follows k ordinary
  unfold Clock.start
  cases queued : c.queue k with
  | nil => exact le_refl _
  | cons tag rest =>
    rw [queued] at follows
    have := follows.2.1
    simp only
    omega

omit [DecidableEq ι] in
theorem virtual_le_start (tagged : Tagged greedy bound c) {k : ι} (ordinary : greedy k) :
    c.virtual ≤ c.start k + bound k := by
  have follows := tagged.follows k ordinary
  have fits := tagged.fits k ordinary
  unfold Clock.start
  cases queued : c.queue k with
  | nil => simp
  | cons tag rest =>
    rw [queued] at follows fits
    have ahead := follows.1
    have small := fits tag List.mem_cons_self
    simp only
    omega

/-- In one step the start of a greedy queue moves by at least the service it
    receives, and by exactly that while it is not empty. -/
theorem step_start (tagged : Tagged greedy bound c) (step : Step greedy bound c served d) {k : ι} (ordinary : greedy k) :
    c.start k + total k served ≤ d.start k ∧
      (c.queue k ≠ [] → d.queue k ≠ [] → d.start k = c.start k + total k served) := by
  have follows := tagged.follows k ordinary
  cases step with
  | stay => simp
  | arrive j service fits =>
    by_cases same : k = j
    · subst same
      have queue : (c.arrive k service).queue k = c.queue k ++ [⟨service,max (c.last k) c.virtual + service⟩] := by
        simp [Clock.arrive]
      cases queued : c.queue k with
      | nil =>
        rw [queued] at follows
        have behind : c.last k ≤ c.virtual := follows
        simp [Clock.start,queue,queued,max_eq_right behind]
      | cons tag rest => simp [Clock.start,queue,queued]
    · have queue : (c.arrive j service).queue k = c.queue k := by simp [Clock.arrive,same]
      have virtual : (c.arrive j service).virtual = c.virtual := rfl
      simp [Clock.start,queue,virtual]
  | depart j tag rest first least =>
    rw [total_one]
    by_cases same : j = k
    · subst same
      rw [first] at follows
      obtain ⟨ahead,-,positive,chained⟩ := follows
      have queue : (c.depart j tag rest).queue j = rest := by simp [Clock.depart]
      have virtual : (c.depart j tag rest).virtual = tag.finish := by simp [Clock.depart,ahead]
      cases rest with
      | nil => simp only [Clock.start,queue,first,virtual,if_true]; omega
      | cons next tail =>
        have next_finish := chained.1
        simp only [Clock.start,queue,first,if_true]
        omega
    · have queue : (c.depart j tag rest).queue k = c.queue k := by simp [Clock.depart,Ne.symm same]
      have virtual : c.virtual ≤ (c.depart j tag rest).virtual := le_max_left _ _
      cases queued : c.queue k with
      | nil => simpa [Clock.start,queue,queued,same] using virtual
      | cons head tail => simp [Clock.start,queue,queued,same]

/-- A run without resets in which the queue `i` is never empty. -/
inductive Busy (greedy : ι → Prop) (bound : ι → Nat) (i : ι) : Clock ι → List (ι × Nat) → Clock ι → Prop where
  | refl (c : Clock ι) (live : c.queue i ≠ []) : Busy greedy bound i c [] c
  | tail {a b c : Clock ι} {first second : List (ι × Nat)} (run : Busy greedy bound i a first b)
      (step : Step greedy bound b second c) (live : c.queue i ≠ []) : Busy greedy bound i a (first ++ second) c

theorem Busy.head {i : ι} {a b : Clock ι} {first second : List (ι × Nat)} (step : Step greedy bound a first b)
    (live : a.queue i ≠ []) (run : Busy greedy bound i b second c) : Busy greedy bound i a (first ++ second) c := by
  induction run with
  | refl next => simpa using (Busy.refl a live).tail step next
  | tail _ last lastLive ih => simpa using ih.tail last lastLive

/-- No job of a greedy queue exceeds its bound. -/
theorem busy_total_le {i : ι} (run : Busy greedy bound i c served d) (tagged : Tagged greedy bound c) {j : ι}
    (ordinary : greedy j) : total j served ≤ (served.filter (·.1 = j)).length * bound j := by
  have invariant : Tagged greedy bound d ∧ total j served ≤ (served.filter (·.1 = j)).length * bound j := by
    induction run with
    | refl live => exact ⟨tagged,by simp⟩
    | @tail middle last before after run step live ih =>
      obtain ⟨isTagged,small⟩ := ih
      refine ⟨step_tagged isTagged step,?_⟩
      have one : total j after ≤ (after.filter (·.1 = j)).length * bound j := by
        cases step with
        | stay => simp
        | arrive => simp
        | depart k tag rest first least =>
          by_cases same : k = j
          · subst same
            simpa [total] using isTagged.fits k ordinary tag (by simp [first])
          · simp [total,same]
      rw [total_append,List.filter_append,List.length_append,Nat.add_mul]
      omega
  exact invariant.2

/-- A queue that is never empty is served as much as any other greedy queue,
    up to one job of each. -/
theorem busy_fair {i : ι} (run : Busy greedy bound i c served d) (tagged : Tagged greedy bound c) (busy : greedy i) {j : ι}
    (ordinary : greedy j) : total j served ≤ total i served + bound i + bound j := by
  have invariant : Tagged greedy bound d ∧ d.queue i ≠ [] ∧ c.start j + total j served ≤ d.start j ∧
      d.start i = c.start i + total i served := by
    induction run with
    | refl live => exact ⟨tagged,live,by simp,by simp⟩
    | tail run step live ih =>
      obtain ⟨middle,wasLive,received,exact⟩ := ih
      have moved := (step_start middle step busy).2 wasLive live
      have other := (step_start middle step ordinary).1
      refine ⟨step_tagged middle step,live,?_,?_⟩
      · rw [total_append]; omega
      · rw [total_append,moved,exact]; omega
  obtain ⟨after,-,received,exact⟩ := invariant
  have upper := start_le_virtual after ordinary
  have lower := virtual_le_start after busy
  have behind := start_le_virtual tagged busy
  have ahead := virtual_le_start tagged ordinary
  omega

end Rios.SelfClocked
