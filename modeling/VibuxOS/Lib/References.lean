import Mathlib.Logic.Function.Basic
import Mathlib.Tactic.Common

namespace VibuxOS.Lib

/-!
# Marks and the references that they stand for

Each holder refers to at most one key, and each key has a mark.  The marks are
right when exactly the keys that some holder refers to are marked.  The lemmas
say what keeps them right: a new reference to a key that gets its mark, and any
change of references after which the same keys are referred to.
-/

section References

variable {ι ι' κ : Type}

/-- Some holder refers to the key. -/
def Held (slot : ι → Option κ) (key : κ) : Prop :=
  ∃ holder, slot holder = some key

/-- The marked keys are the ones that are referred to. -/
def Tracked (used : κ → Bool) (slot : ι → Option κ) : Prop :=
  ∀ key, used key = true ↔ Held slot key

theorem Tracked.of_same_keys
    {used : κ → Bool}
    {slot : ι → Option κ}
    {slot' : ι' → Option κ}
    (tracked : Tracked used slot)
    (kept : ∀ key, Held slot key → Held slot' key)
    (origin : ∀ key, Held slot' key → Held slot key) :
    Tracked used slot' := by
  intro key
  rw [tracked key]
  exact ⟨kept key, origin key⟩

/-- A holder without a reference takes a key, and the key is marked. -/
theorem Tracked.take
    [DecidableEq ι]
    [DecidableEq κ]
    {used : κ → Bool}
    {slot : ι → Option κ}
    {holder : ι}
    {taken : κ}
    (tracked : Tracked used slot)
    (free : slot holder = none) :
    Tracked (Function.update used taken true)
      (Function.update slot holder (some taken)) := by
  intro key
  by_cases same : key = taken
  · subst same
    rw [Function.update_self]
    exact ⟨fun _ => ⟨holder, Function.update_self _ _ _⟩, fun _ => rfl⟩
  · rw [Function.update_of_ne same, tracked key]
    constructor
    · rintro ⟨other, refers⟩
      refine ⟨other, ?_⟩
      rw [Function.update_of_ne, refers]
      rintro rfl
      rw [free] at refers
      cases refers
    · rintro ⟨other, refers⟩
      by_cases isHolder : other = holder
      · subst isHolder
        rw [Function.update_self] at refers
        exact (same (Option.some.inj refers).symm).elim
      · rw [Function.update_of_ne isHolder] at refers
        exact ⟨other, refers⟩

end References

end VibuxOS.Lib
