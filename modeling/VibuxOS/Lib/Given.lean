import Mathlib.Tactic.Common

namespace VibuxOS.Lib

/-!
# Steps that may fault

A step that may fault gives an `Option`: there is no result after an index out of
range, an overflow or a write outside a buffer.  `Gives` says that there is a result
and what holds of it.  The rules follow the ways in which such steps are put
together: a sequence, a branch, a loop, a loop that is left early, and a run of steps
each of which meets a condition of its own.
-/

variable {α β σ : Type}

def Gives (result : Option α) (property : α → Prop) : Prop :=
  ∃ value, result = some value ∧ property value

namespace Gives

variable {property : α → Prop}

protected theorem some
    {value : α}
    (holds : property value) :
    Gives (some value) property :=
  ⟨value, rfl, holds⟩

theorem of_eq
    {result : Option α}
    {value : α}
    (same : result = Option.some value)
    (holds : property value) :
    Gives result property :=
  ⟨value, same, holds⟩

theorem imp
    {result : Option α}
    {other : α → Prop}
    (gives : Gives result property)
    (implies : ∀ value, property value → other value) :
    Gives result other := by
  obtain ⟨value, same, holds⟩ := gives
  exact ⟨value, same, implies value holds⟩

theorem bind
    {result : Option α}
    {next : α → Option β}
    {after : β → Prop}
    (gives : Gives result property)
    (goesOn : ∀ value, property value → Gives (next value) after) :
    Gives (result >>= next) after := by
  obtain ⟨value, rfl, holds⟩ := gives
  exact goesOn value holds

theorem bind_eq
    {result : Option α}
    {value : α}
    {next : α → Option β}
    {after : β → Prop}
    (same : result = Option.some value)
    (goesOn : Gives (next value) after) :
    Gives (result >>= next) after := by
  subst same
  exact goesOn

theorem ite
    {condition : Prop}
    [Decidable condition]
    {first second : Option α}
    (onTrue : condition → Gives first property)
    (onFalse : ¬condition → Gives second property) :
    Gives (if condition then first else second) property := by
  by_cases holds : condition
  · rw [if_pos holds]
    exact onTrue holds
  · rw [if_neg holds]
    exact onFalse holds

theorem foldlM
    {step : σ → α → Option σ}
    {invariant : σ → Prop}
    {items : List α}
    (keeps :
      ∀ item ∈ items, ∀ state, invariant state →
        Gives (step state item) invariant)
    {state : σ}
    (start : invariant state) :
    Gives (items.foldlM step state) invariant := by
  induction items generalizing state with
  | nil =>
      exact Gives.some start
  | cons item rest inductionHypothesis =>
      rw [List.foldlM_cons]
      exact (keeps item (List.mem_cons_self ..) state start).bind
        fun _ holds =>
          inductionHypothesis
            (fun other member =>
              keeps other (List.mem_cons_of_mem _ member))
            holds

end Gives

/-- A loop that is left at the first item with a property. -/
def foldUntil
    (leaves : α → Bool)
    (step : σ → α → Option σ) :
    List α → σ → Option σ
  | [], state => some state
  | item :: rest, state =>
      if leaves item then
        some state
      else do
        let state ← step state item
        foldUntil leaves step rest state

theorem Gives.foldUntil
    {leaves : α → Bool}
    {step : σ → α → Option σ}
    {invariant : σ → Prop}
    {items : List α}
    (keeps :
      ∀ item ∈ items, leaves item = false → ∀ state, invariant state →
        Gives (step state item) invariant)
    {state : σ}
    (start : invariant state) :
    Gives (foldUntil leaves step items state) invariant := by
  induction items generalizing state with
  | nil =>
      exact Gives.some start
  | cons item rest inductionHypothesis =>
      unfold Lib.foldUntil
      apply Gives.ite
      · intro _
        exact Gives.some start
      · intro stays
        apply (keeps item (List.mem_cons_self ..)
          (Bool.eq_false_iff.mpr stays) state start).bind
        intro next holds
        exact inductionHypothesis
          (fun other member =>
            keeps other (List.mem_cons_of_mem _ member))
          holds

/-- Every step of a run meets its condition where it is taken. -/
def Meets
    (condition : σ → α → Prop)
    (step : σ → α → Option σ) :
    List α → σ → Prop
  | [], _ => True
  | item :: rest, state =>
      condition state item ∧
        ∀ next, step state item = some next →
          Meets condition step rest next

theorem Meets.of_append
    {condition : σ → α → Prop}
    {step : σ → α → Option σ}
    {first rest : List α}
    {state : σ}
    (met : Meets condition step (first ++ rest) state) :
    Meets condition step first state := by
  induction first generalizing state with
  | nil =>
      exact trivial
  | cons item others inductionHypothesis =>
      exact ⟨met.1, fun next stepped =>
        inductionHypothesis (met.2 next stepped)⟩

theorem Meets.gives
    {condition : σ → α → Prop}
    {step : σ → α → Option σ}
    {invariant : σ → Prop}
    (keeps :
      ∀ state item, invariant state → condition state item →
        Gives (step state item) invariant)
    {items : List α}
    {state : σ}
    (met : Meets condition step items state)
    (start : invariant state) :
    Gives (items.foldlM step state) invariant := by
  induction items generalizing state with
  | nil =>
      exact Gives.some start
  | cons item rest inductionHypothesis =>
      rw [List.foldlM_cons]
      obtain ⟨next, stepped, holds⟩ := keeps state item start met.1
      exact Gives.bind_eq stepped
        (inductionHypothesis (met.2 next stepped) holds)

end VibuxOS.Lib
