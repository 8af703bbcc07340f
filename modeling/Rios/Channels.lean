import Mathlib

/-!
# Messages on channels

Messages of several channels wait in one list, in the order in which they will
leave it. A message may be put anywhere in front of messages of other channels.
Then each channel delivers what was sent on it, once and in the order of sending.
-/

namespace Rios.Channels

variable {α κ : Type*} [DecidableEq κ]

/-- What was sent and what was received of it so far, oldest first, and what waits. -/
structure Ledger (α : Type*) where
  sent : List α
  received : List α
  waiting : List α

/-- The messages of one channel. What has no channel is not a message. -/
def on (channel : α → Option κ) (k : κ) (messages : List α) : List α := messages.filter (fun a => channel a = some k)

variable {channel : α → Option κ} {k : κ} {a : α} {first second : List α}

@[simp] theorem on_append : on channel k (first ++ second) = on channel k first ++ on channel k second :=
  List.filter_append ..

theorem on_cons_self (own : channel a = some k) : on channel k (a :: first) = a :: on channel k first :=
  List.filter_cons_of_pos (decide_eq_true own)

theorem on_cons_other (other : channel a ≠ some k) : on channel k (a :: first) = on channel k first :=
  List.filter_cons_of_neg (by simpa using other)

theorem on_eq_nil (others : ∀ b ∈ first, channel b ≠ some k) : on channel k first = [] :=
  List.filter_eq_nil_iff.mpr (by simpa using others)

theorem mem_on : a ∈ on channel k first ↔ a ∈ first ∧ channel a = some k := by simp [on]

namespace Ledger

/-- Each channel received the first messages sent on it, and the others wait in the order of sending. -/
def InOrder (channel : α → Option κ) (ledger : Ledger α) : Prop :=
  ∀ k, on channel k ledger.sent = on channel k ledger.received ++ on channel k ledger.waiting

variable {sent received waiting front back : List α}

theorem inOrder_empty : InOrder channel (⟨[],[],[]⟩ : Ledger α) := fun _ => rfl

/-- Something that is not a message may wait anywhere. -/
theorem InOrder.pass (inOrder : InOrder channel ⟨sent,received,front ++ back⟩) (none : channel a = none) :
    InOrder channel ⟨sent,received,front ++ a :: back⟩ := by
  intro k
  have here := inOrder k
  simp only [on_append] at here ⊢
  rw [on_cons_other (by simp [none]),here]

/-- A message is sent in front of messages of other channels. -/
theorem InOrder.send (inOrder : InOrder channel ⟨sent,received,front ++ back⟩) (own : channel a = some k)
    (others : ∀ b ∈ back, channel b ≠ some k) : InOrder channel ⟨sent ++ [a],received,front ++ a :: back⟩ := by
  intro key
  have here := inOrder key
  simp only [on_append] at here ⊢
  by_cases same : key = k
  · subst same
    rw [on_eq_nil others,List.append_nil] at here
    rw [on_cons_self own,on_cons_self own,on_eq_nil others,here,List.append_assoc]
    rfl
  · have other : channel a ≠ some key := by
      rw [own]
      exact fun equal => same (Option.some.inj equal).symm
    rw [on_cons_other other,on_cons_other other,here]
    exact List.append_nil _

/-- What leaves first is received if it is a message. -/
theorem InOrder.receive (inOrder : InOrder channel ⟨sent,received,a :: waiting⟩) (own : channel a = some k) :
    InOrder channel ⟨sent,received ++ [a],waiting⟩ := by
  intro key
  have here := inOrder key
  simp only [on_append] at here ⊢
  by_cases same : key = k
  · subst same
    rw [on_cons_self own] at here ⊢
    rw [here,List.append_assoc]
    rfl
  · have other : channel a ≠ some key := by
      rw [own]
      exact fun equal => same (Option.some.inj equal).symm
    rw [on_cons_other other] at here ⊢
    rw [here]
    exact congrArg (· ++ on channel key waiting) (List.append_nil _).symm

theorem InOrder.drop (inOrder : InOrder channel ⟨sent,received,a :: waiting⟩) (none : channel a = none) :
    InOrder channel ⟨sent,received,waiting⟩ := by
  intro k
  have here := inOrder k
  simp only at here ⊢
  rw [here,on_cons_other (by simp [none])]

variable {ledger : Ledger α}

/-- What a channel received is a beginning of what was sent on it. -/
theorem InOrder.received_begins (inOrder : InOrder channel ledger) (k : κ) :
    on channel k ledger.received <+: on channel k ledger.sent := ⟨on channel k ledger.waiting,(inOrder k).symm⟩

/-- Every message that was sent is received or waits, as often as it was sent. -/
theorem InOrder.conserved (inOrder : InOrder channel ledger) :
    (ledger.sent.filter (fun a => (channel a).isSome)).Perm
      ((ledger.received ++ ledger.waiting).filter (fun a => (channel a).isSome)) := by
  classical
  rw [List.perm_iff_count]
  intro a
  cases own : channel a with
  | none =>
    have absent : ∀ list : List α, a ∉ list.filter (fun b => (channel b).isSome) := by
      intro list member
      have some := (List.mem_filter.mp member).2
      rw [own] at some
      cases some
    rw [List.count_eq_zero_of_not_mem (absent _),List.count_eq_zero_of_not_mem (absent _)]
  | some k =>
    have counted : ∀ list : List α, (list.filter (fun b => (channel b).isSome)).count a = (on channel k list).count a := by
      intro list
      rw [List.count_filter (by simp [own]),on,List.count_filter (by simp [own])]
    rw [counted,counted,inOrder k,on_append]

end Ledger
end Rios.Channels
