import Mathlib.Data.List.Basic

/-!
Computations that may fail. What comes of one after another is what comes of the last, or the first
failure. So a property of the results and one of the failures go through a sequence of steps if they
go through each of them.
-/
namespace Downstream

variable {ε α β : Type}

instance decidableEqExcept [DecidableEq ε] [DecidableEq α] : DecidableEq (Except ε α)
  | .ok one, .ok other => decidable_of_iff (one = other) (by rw [Except.ok.injEq])
  | .error one, .error other => decidable_of_iff (one = other) (by rw [Except.error.injEq])
  | .ok _, .error _ | .error _, .ok _ => isFalse nofun

theorem bind_eq_ok_iff {first : Except ε α} {rest : α → Except ε β} {result : β} :
    first >>= rest = .ok result ↔ ∃ value, first = .ok value ∧ rest value = .ok result := by
  cases first <;> simp [bind, Except.bind]

theorem bind_eq_error_iff {first : Except ε α} {rest : α → Except ε β} {failure : ε} :
    first >>= rest = .error failure ↔
      first = .error failure ∨ ∃ value, first = .ok value ∧ rest value = .error failure := by
  cases first <;> simp [bind, Except.bind]

def Ends (good : α → Prop) (bad : ε → Prop) : Except ε α → Prop
  | .ok value => good value
  | .error failure => bad failure

abbrev FailsOnly (bad : ε → Prop) : Except ε α → Prop :=
  Ends (fun _ => True) bad

variable {good : α → Prop} {better : β → Prop} {bad : ε → Prop}

theorem Ends.ite_of_cond {condition : Prop} [Decidable condition] {one other : Except ε α}
    (here : condition → Ends good bad one) (there : Ends good bad other) :
    Ends good bad (if condition then one else other) := by
  split
  · exact here ‹_›
  · exact there

theorem Ends.ite {condition : Prop} [Decidable condition] {one other : Except ε α}
    (here : Ends good bad one) (there : Ends good bad other) :
    Ends good bad (if condition then one else other) :=
  .ite_of_cond (fun _ => here) there

theorem Ends.bind {first : Except ε α} {rest : α → Except ε β} (one : Ends good bad first)
    (later : ∀ value, good value → Ends better bad (rest value)) :
    Ends better bad (first >>= rest) := by
  cases first with
  | ok value => exact later value one
  | error failure => exact one

theorem FailsOnly.bind {first : Except ε α} {rest : α → Except ε β} (one : FailsOnly bad first)
    (later : ∀ value, Ends better bad (rest value)) : Ends better bad (first >>= rest) :=
  Ends.bind one fun value _ => later value

theorem Ends.map {first : Except ε α} (one : FailsOnly bad first) (f : α → β) :
    FailsOnly bad (f <$> first) := by
  cases first <;> exact one

theorem Ends.mono {worse : ε → Prop} {result : Except ε α} (ends : Ends good bad result)
    (weaker : ∀ failure, bad failure → worse failure) : Ends good worse result := by
  cases result with
  | ok value => exact ends
  | error failure => exact weaker failure ends

theorem mapM_eq_ok_iff {items : List α} {step : α → Except ε β} {results : List β} :
    items.mapM step = .ok results ↔ items.map step = results.map .ok := by
  induction items generalizing results with
  | nil => simp [pure, Except.pure, eq_comm]
  | cons item items ih =>
    rw [List.mapM_cons, List.map_cons]
    cases results with
    | nil => simp [bind_eq_ok_iff, pure, Except.pure]
    | cons result results => simp [bind_eq_ok_iff, pure, Except.pure, ih]

theorem mapM_eq_error {before after : List α} {item : α} {step : α → Except ε β} {failure : ε}
    (passed : ∀ other ∈ before, ∃ result, step other = .ok result)
    (failed : step item = .error failure) :
    (before ++ item :: after).mapM step = .error failure := by
  induction before with
  | nil =>
    rw [List.nil_append, List.mapM_cons, failed]
    rfl
  | cons first before ih =>
    obtain ⟨result, here⟩ := passed first List.mem_cons_self
    rw [List.cons_append, List.mapM_cons, here,
      ih fun other later => passed other (List.mem_cons_of_mem first later)]
    rfl

theorem FailsOnly.mapM {items : List α} {step : α → Except ε β}
    (each : ∀ item ∈ items, FailsOnly bad (step item)) : FailsOnly bad (items.mapM step) := by
  induction items with
  | nil => trivial
  | cons item items ih =>
    rw [List.mapM_cons]
    refine (each item List.mem_cons_self).bind fun _ => ?_
    exact (ih fun other later => each other (List.mem_cons_of_mem item later)).bind fun _ => trivial

theorem mapM_eq_error_iff {cause failure : ε} {items : List α} {step : α → Except ε β}
    (only : ∀ item, FailsOnly (· = cause) (step item)) :
    items.mapM step = .error failure ↔
      failure = cause ∧ ∃ item ∈ items, step item = .error cause := by
  induction items with
  | nil => simp [pure, Except.pure]
  | cons item items ih =>
    have same := only item
    simp only [List.mapM_cons, List.exists_mem_cons_iff, bind_eq_error_iff, ih]
    cases here : step item with
    | error problem =>
      rw [here] at same
      obtain rfl := same
      simp [eq_comm]
    | ok value => simp [pure, Except.pure]

theorem exists_step_of_foldlM_eq_error {σ : Type} {items : List α} {step : σ → α → Except ε σ}
    {start : σ} {failure : ε} (failed : items.foldlM step start = .error failure) :
    ∃ before item after state, items = before ++ item :: after ∧
      before.foldlM step start = .ok state ∧ step state item = .error failure := by
  induction items generalizing start with
  | nil => cases failed
  | cons item items ih =>
    rw [List.foldlM_cons] at failed
    rcases bind_eq_error_iff.mp failed with here | ⟨next, passed, later⟩
    · exact ⟨[], item, items, start, rfl, rfl, here⟩
    · obtain ⟨before, failing, after, state, split, reached, there⟩ := ih later
      refine ⟨item :: before, failing, after, state, by rw [split, List.cons_append], ?_, there⟩
      rw [List.foldlM_cons, passed]
      exact reached

theorem Ends.foldlM {σ : Type} {keeps : σ → Prop} {items : List α} {step : σ → α → Except ε σ}
    {start : σ} (begins : keeps start)
    (each : ∀ state item, keeps state → Ends keeps bad (step state item)) :
    Ends keeps bad (items.foldlM step start) := by
  induction items generalizing start with
  | nil => exact begins
  | cons item items ih =>
    rw [List.foldlM_cons]
    exact (each start item begins).bind fun next kept => ih kept

end Downstream
