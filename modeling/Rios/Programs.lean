import Mathlib

/-!
# Programs that may fail

A program on a state returns a value or an error, and what it did to the state
stays in either case. Rules say what a program yields from a state, and what
every part of a program keeps is kept by the whole.
-/

namespace Rios.Programs

universe u

/-- A program on states `σ` that may stop with an error `ε`. -/
abbrev Program (σ ε α : Type u) := ExceptT ε (StateM σ) α

variable {σ ε α β : Type u}

/-- The value of an option, or an error if there is none. -/
def require (value : Option α) (error : ε) : Program σ ε α :=
  match value with
  | some a => pure a
  | none => throw error

/-- The value of a result whose errors are embedded. -/
def attempt {ε' : Type u} (embed : ε' → ε) (result : Except ε' α) : Program σ ε α :=
  match result with
  | .ok a => pure a
  | .error error => throw (embed error)

/-- Some errors of a program are not errors of its caller. -/
def forgive (excused : ε → Bool) (program : Program σ ε PUnit) : Program σ ε PUnit :=
  tryCatch program (fun error => if excused error then pure ⟨⟩ else throw error)

namespace Program
variable {program : Program σ ε α} {next : α → Program σ ε β} {state : σ}

/-- The result of a program and the state it leaves. -/
def exec (program : Program σ ε α) (state : σ) : Except ε α × σ := program.run.run state

/-- From a state, a program that returns leaves a state with `done`, and one that
    fails leaves a state with `failed`. -/
def Yields (program : Program σ ε α) (state : σ) (done : α → σ → Prop) (failed : ε → σ → Prop) : Prop :=
  match program.exec state with
  | (.ok a,after) => done a after
  | (.error error,after) => failed error after

variable {done done' : α → σ → Prop} {failed failed' : ε → σ → Prop}

theorem yields_iff : program.Yields state done failed ↔
    (∀ a after, program.exec state = (.ok a,after) → done a after) ∧
      ∀ error after, program.exec state = (.error error,after) → failed error after := by
  unfold Yields
  rcases program.exec state with ⟨error | a,after⟩
  · constructor
    · intro holds
      exact ⟨(by intro _ _ same; cases same),(by intro _ _ same; cases same; exact holds)⟩
    · intro ⟨_,holds⟩
      exact holds error after rfl
  · constructor
    · intro holds
      exact ⟨(by intro _ _ same; cases same; exact holds),(by intro _ _ same; cases same)⟩
    · intro ⟨holds,_⟩
      exact holds a after rfl

/-- What a program yields may be weakened. -/
theorem Yields.mono (yields : program.Yields state done failed) (weaker : ∀ a after, done a after → done' a after)
    (weakerFailed : ∀ error after, failed error after → failed' error after) : program.Yields state done' failed' := by
  rw [yields_iff] at yields ⊢
  exact ⟨fun a after run => weaker a after (yields.1 a after run),
    fun error after run => weakerFailed error after (yields.2 error after run)⟩

/-- What a program yields, with the run itself. -/
theorem Yields.exec (yields : program.Yields state done failed) :
    program.Yields state (fun a after => done a after ∧ program.exec state = (.ok a,after))
      (fun error after => failed error after ∧ program.exec state = (.error error,after)) := by
  rw [yields_iff] at yields ⊢
  exact ⟨fun a after run => ⟨yields.1 a after run,run⟩,fun error after run => ⟨yields.2 error after run,run⟩⟩

@[simp] theorem yields_pure (a : α) : (pure a : Program σ ε α).Yields state done failed ↔ done a state := Iff.rfl

@[simp] theorem yields_throw (error : ε) :
    (throw error : Program σ ε α).Yields state done failed ↔ failed error state := Iff.rfl

@[simp] theorem yields_get {done : σ → σ → Prop} :
    (get : Program σ ε σ).Yields state done failed ↔ done state state := Iff.rfl

@[simp] theorem yields_modify (f : σ → σ) {done : PUnit → σ → Prop} :
    (modify f : Program σ ε PUnit).Yields state done failed ↔ done ⟨⟩ (f state) := Iff.rfl

/-- A sequence runs its second part from where the first one leaves. -/
theorem exec_bind (program : Program σ ε α) (next : α → Program σ ε β) (state : σ) :
    (program >>= next).exec state = match program.exec state with
      | (.ok a,after) => (next a).exec after
      | (.error error,after) => (.error error,after) := by
  show ExceptT.bindCont next (program state).1 (program state).2 = match program state with
    | (.ok a,after) => next a after
    | (.error error,after) => (.error error,after)
  rcases program state with ⟨error | a,after⟩ <;> rfl

/-- What is read is the state, which stays. -/
theorem exec_get_bind (next : σ → Program σ ε β) (state : σ) : (get >>= next).exec state = (next state).exec state := by
  rw [exec_bind]
  rfl

theorem exec_modify_bind (f : σ → σ) (next : PUnit → Program σ ε β) (state : σ) :
    (modify f >>= next).exec state = (next ⟨⟩).exec (f state) := by
  rw [exec_bind]
  rfl

/-- A sequence yields what its second part yields after the first one. -/
@[simp] theorem yields_bind {done : β → σ → Prop} : (program >>= next).Yields state done failed ↔
    program.Yields state (fun a after => (next a).Yields after done failed) failed := by
  unfold Yields
  rw [exec_bind]
  rcases program.exec state with ⟨error | a,after⟩ <;> rfl

theorem yields_require (value : Option α) (error : ε) : (require value error : Program σ ε α).Yields state done failed ↔
    (∀ a, value = some a → done a state) ∧ (value = none → failed error state) := by
  cases value with
  | none => simp [require]
  | some a => simp [require]

theorem yields_attempt {ε' : Type u} (embed : ε' → ε) (result : Except ε' α) :
    (attempt embed result : Program σ ε α).Yields state done failed ↔
      (∀ a, result = .ok a → done a state) ∧ ∀ error, result = .error error → failed (embed error) state := by
  cases result with
  | error error => simp [attempt]
  | ok a => simp [attempt]

theorem yields_forgive (excused : ε → Bool) (program : Program σ ε PUnit) {done : PUnit → σ → Prop} :
    (forgive excused program).Yields state done failed ↔ program.Yields state done
      (fun error after => if excused error then done ⟨⟩ after else failed error after) := by
  have step : (forgive excused program).exec state = match program.exec state with
    | (.ok a,after) => (.ok a,after)
    | (.error error,after) => if excused error then (.ok ⟨⟩,after) else (.error error,after) := by
    rcases run : program.exec state with ⟨error | a,after⟩
    · have here : program state = (.error error,after) := run
      simp only [exec,forgive,tryCatch,tryCatchThe,MonadExceptOf.tryCatch,ExceptT.tryCatch,ExceptT.run,ExceptT.mk,StateT.run,
        bind,StateT.bind,here]
      by_cases excuse : excused error = true
      · rw [if_pos excuse,if_pos excuse]; rfl
      · rw [if_neg excuse,if_neg excuse]; rfl
    · have here : program state = (.ok a,after) := run
      simp only [exec,forgive,tryCatch,tryCatchThe,MonadExceptOf.tryCatch,ExceptT.tryCatch,ExceptT.run,ExceptT.mk,StateT.run,
        bind,StateT.bind,here]
      rfl
  unfold Yields
  rw [step]
  rcases program.exec state with ⟨error | a,after⟩
  · by_cases excuse : excused error = true
    · simp [excuse]
    · simp [excuse]
  · rfl

/-! ### What a program keeps -/

/-- Whatever happens, the program leaves states of a kind within it. -/
def Keeps (holds : σ → Prop) (program : Program σ ε α) : Prop :=
  ∀ state, holds state → program.Yields state (fun _ after => holds after) (fun _ after => holds after)

variable {holds : σ → Prop}

theorem Keeps.pure (a : α) : (Pure.pure a : Program σ ε α).Keeps holds := fun _ held => held

theorem Keeps.throw (error : ε) : (MonadExcept.throw error : Program σ ε α).Keeps holds := fun _ held => held

theorem Keeps.require (value : Option α) (error : ε) : (Programs.require value error : Program σ ε α).Keeps holds :=
  fun _ held => (yields_require value error).mpr ⟨fun _ _ => held,fun _ => held⟩

theorem Keeps.attempt {ε' : Type u} (embed : ε' → ε) (result : Except ε' α) :
    (Programs.attempt embed result : Program σ ε α).Keeps holds :=
  fun _ held => (yields_attempt embed result).mpr ⟨fun _ _ => held,fun _ _ => held⟩

theorem Keeps.modify {f : σ → σ} (keeps : ∀ state, holds state → holds (f state)) :
    (MonadStateOf.modifyGet (fun state => (⟨⟩,f state)) : Program σ ε PUnit).Keeps holds := keeps

theorem Keeps.bind (first : program.Keeps holds) (rest : ∀ a, (next a).Keeps holds) : (program >>= next).Keeps holds := by
  intro state held
  rw [yields_bind]
  exact (first state held).mono (fun a after kept => rest a after kept) (fun _ _ kept => kept)

/-- Reading the state first: the rest may use what was read. -/
theorem Keeps.get {next : σ → Program σ ε β}
    (rest : ∀ state, holds state → (next state).Yields state (fun _ after => holds after) (fun _ after => holds after)) :
    (MonadState.get >>= next).Keeps holds := by
  intro state held
  rw [yields_bind,yields_get]
  exact rest state held

theorem Keeps.forgive {program : Program σ ε PUnit} (keeps : program.Keeps holds) (excused : ε → Bool) :
    (Programs.forgive excused program).Keeps holds := by
  intro state held
  rw [yields_forgive]
  refine (keeps state held).mono (fun _ _ kept => kept) (fun error after kept => ?_)
  by_cases excuse : excused error = true
  · rwa [if_pos excuse]
  · rwa [if_neg excuse]

theorem Keeps.forM {γ : Type u} (items : List γ) {body : γ → Program σ ε PUnit}
    (keeps : ∀ item ∈ items, (body item).Keeps holds) :
    (items.forM body).Keeps holds := by
  induction items with
  | nil => exact Keeps.pure _
  | cons item rest ih =>
    show (body item >>= fun _ => rest.forM body).Keeps holds
    exact (keeps item List.mem_cons_self).bind fun _ => ih fun other member => keeps other (List.mem_cons_of_mem item member)

/-! ### What a program keeps until it fails -/

/-- The program keeps states of a kind, and says something else of its failures. -/
def Leads (failed : ε → σ → Prop) (holds : σ → Prop) (program : Program σ ε α) : Prop :=
  ∀ state, holds state → program.Yields state (fun _ after => holds after) failed

theorem Keeps.leads (keeps : program.Keeps holds) (weaker : ∀ error after, holds after → failed error after) :
    program.Leads failed holds :=
  fun state held => (keeps state held).mono (fun _ _ kept => kept) weaker

theorem Leads.mono (leads : program.Leads failed holds) (weaker : ∀ error after, failed error after → failed' error after) :
    program.Leads failed' holds :=
  fun state held => (leads state held).mono (fun _ _ kept => kept) weaker

theorem Leads.bind (first : program.Leads failed holds) (rest : ∀ a, (next a).Leads failed holds) :
    (program >>= next).Leads failed holds := by
  intro state held
  rw [yields_bind]
  exact (first state held).mono (fun a after kept => rest a after kept) fun _ _ kept => kept

theorem Leads.forM {γ : Type u} (items : List γ) {body : γ → Program σ ε PUnit}
    (leads : ∀ item ∈ items, (body item).Leads failed holds) : (items.forM body).Leads failed holds := by
  induction items with
  | nil => exact fun _ held => held
  | cons item rest ih =>
    show (body item >>= fun _ => rest.forM body).Leads failed holds
    exact (leads item List.mem_cons_self).bind fun _ => ih fun other member => leads other (List.mem_cons_of_mem item member)

/-- The program keeps states of a kind, unless it stops with an error that is not mild. -/
abbrev Spares (mild : ε → Bool) (holds : σ → Prop) (program : Program σ ε α) : Prop :=
  program.Leads (fun error after => mild error = true → holds after) holds

variable {mild : ε → Bool}

theorem Keeps.spares (keeps : program.Keeps holds) : program.Spares mild holds := keeps.leads fun _ _ kept _ => kept

/-- Mild errors that are forgiven leave a state that was kept. -/
theorem Spares.forgive {program : Program σ ε PUnit} (spares : program.Spares mild holds) :
    (Programs.forgive mild program).Leads (fun error _ => mild error = false) holds := by
  intro state held
  rw [yields_forgive]
  refine (spares state held).mono (fun _ _ kept => kept) fun error after kept => ?_
  by_cases excuse : mild error = true
  · rw [if_pos excuse]
    exact kept excuse
  · rw [if_neg excuse]
    exact Bool.eq_false_iff.mpr excuse

/-- A program whose errors are never mild. -/
theorem Leads.spares (leads : program.Leads (fun error _ => mild error = false) holds) : program.Spares mild holds :=
  leads.mono fun _ _ hard soft => absurd soft (Bool.eq_false_iff.mp hard)

end Program
end Rios.Programs
