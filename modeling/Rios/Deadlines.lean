import Mathlib.Data.List.MinMax
import Mathlib.Data.List.Chain
import Mathlib.Order.Basic

/-!
# Components with deadlines

A component reports its earliest deadline, and its owner calls it again at that
time. Where a call never leaves a deadline behind that is already due, the
events of the owner advance.
-/

namespace Rios.Deadlines

/-- A component in virtual time: what a call leaves, and the deadline it reports. -/
structure Component (σ τ : Type*) where
  tick : σ → τ → σ
  next_deadline : σ → Option τ

variable {σ τ : Type*} [LinearOrder τ]

/-- A call at a time leaves nothing behind that is due by then. -/
def Forward (component : Component σ τ) (state : σ) (now : τ) : Prop :=
  ∀ deadline, component.next_deadline (component.tick state now) = some deadline → now < deadline

/-- The times at which an owner calls a component, each the deadline that the call before reported. -/
inductive Rearmed (component : Component σ τ) : σ → List τ → Prop
  | idle (state : σ) : Rearmed component state []
  | event {state : σ} {now : τ} {later : List τ} (rest : Rearmed component (component.tick state now) later)
      (armed : ∀ next ∈ later.head?, component.next_deadline (component.tick state now) = some next) :
      Rearmed component state (now :: later)

/-- The events of an owner come at strictly later and later times. -/
theorem Rearmed.increasing {component : Component σ τ} {good : σ → Prop} {latest : τ}
    (kept : ∀ state now, good state → good (component.tick state now))
    (forward : ∀ state now, good state → now < latest → Forward component state now) {state : σ} {times : List τ}
    (rearmed : Rearmed component state times) (start : good state) (early : ∀ time ∈ times, time < latest) :
    times.Pairwise (· < ·) := by
  rw [← List.isChain_iff_pairwise]
  induction rearmed with
  | idle state => exact .nil
  | @event state now later rest armed ih =>
    have ordered := ih (kept state now start) (fun time member => early time (.tail _ member))
    cases later with
    | nil => exact .singleton now
    | cons next others =>
      have due := forward state now start (early now (.head _)) next (armed next rfl)
      exact .cons_cons due ordered

/-- Before some latest time, calls leave nothing due and the events of the owner advance. -/
def Advances (component : Component σ τ) (latest : τ) (state : σ) : Prop :=
  (∀ now, now < latest → Forward component state now) ∧
    ∀ times, Rearmed component state times → (∀ time ∈ times, time < latest) → times.Pairwise (· < ·)

theorem advances_of_kept {component : Component σ τ} {good : σ → Prop} {latest : τ}
    (kept : ∀ state now, good state → good (component.tick state now))
    (forward : ∀ state now, good state → now < latest → Forward component state now) {state : σ} (start : good state) :
    Advances component latest state :=
  ⟨fun now early => forward state now start early,fun _ rearmed early => rearmed.increasing kept forward start early⟩

/-- The earliest of some deadlines lies after a time, if all of them do. -/
theorem lt_min? {deadlines : List τ} {now deadline : τ} (least : deadlines.min? = some deadline)
    (later : ∀ time ∈ deadlines, now < time) : now < deadline :=
  later deadline (List.min?_mem least)

end Rios.Deadlines
