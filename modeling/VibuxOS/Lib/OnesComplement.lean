import Mathlib.Algebra.Group.Nat.Defs
import Mathlib.Tactic.Common

namespace VibuxOS.Lib.OnesComplement

/-!
# Sums with carries folded back

In one's-complement arithmetic of a base the carries of a sum are added to its low
digit until one digit is left.  That digit is the sum modulo the base less one, with
the largest digit for the multiples of it other than zero.  So a positive sum that is
completed by the complement of its digit folds to the largest digit.
-/

variable {base : Nat}

/-- Add the carries of a sum to its low digit. -/
def fold (base sum : Nat) : Nat :=
  sum % base + sum / base

theorem fold_add (positive : 0 < base) (sum : Nat) :
    fold base sum + (base - 1) * (sum / base) = sum := by
  have parts := Nat.mod_add_div sum base
  obtain ⟨less, rfl⟩ := Nat.exists_eq_succ_of_ne_zero (Nat.ne_of_gt positive)
  rw [Nat.succ_mul] at parts
  rw [fold, Nat.succ_sub_one]
  omega

theorem fold_mod (positive : 0 < base) (sum : Nat) :
    fold base sum % (base - 1) = sum % (base - 1) := by
  have parts := fold_add positive sum
  calc fold base sum % (base - 1)
      = (fold base sum + (base - 1) * (sum / base)) % (base - 1) :=
        (Nat.add_mul_mod_self_left _ _ _).symm
    _ = sum % (base - 1) := by
        rw [parts]

theorem fold_lt
    (atLeastTwo : 1 < base)
    {sum : Nat}
    (carries : base ≤ sum) :
    fold base sum < sum := by
  have parts := fold_add (Nat.zero_lt_of_lt atLeastTwo) sum
  have hasCarry : 0 < sum / base :=
    Nat.div_pos carries (Nat.zero_lt_of_lt atLeastTwo)
  have shrinks : 0 < (base - 1) * (sum / base) :=
    Nat.mul_pos (Nat.sub_pos_of_lt atLeastTwo) hasCarry
  omega

theorem fold_eq_zero_iff
    (positive : 0 < base)
    {sum : Nat} :
    fold base sum = 0 ↔ sum = 0 := by
  constructor
  · intro isZero
    have parts := fold_add positive sum
    have noCarry : sum / base = 0 := (Nat.add_eq_zero_iff.mp isZero).2
    rwa [isZero, noCarry, Nat.mul_zero, Nat.add_zero, eq_comm] at parts
  · rintro rfl
    rw [fold, Nat.zero_mod, Nat.zero_div]

/-- The one digit that a sum folds to. -/
structure Digit (base sum digit : Nat) : Prop where
  small : digit < base
  congruent : digit % (base - 1) = sum % (base - 1)
  isZero : digit = 0 ↔ sum = 0

theorem Digit.self
    {sum : Nat}
    (small : sum < base) :
    Digit base sum sum :=
  ⟨small, rfl, Iff.rfl⟩

theorem Digit.of_fold
    (positive : 0 < base)
    {sum digit : Nat}
    (isDigit : Digit base (fold base sum) digit) :
    Digit base sum digit where
  small := isDigit.small
  congruent := isDigit.congruent.trans (fold_mod positive sum)
  isZero := isDigit.isZero.trans (fold_eq_zero_iff positive)

theorem Digit.complete
    (atLeastTwo : 1 < base)
    {sum digit other : Nat}
    (isDigit : Digit base sum digit)
    (isOther : Digit base (sum + (base - 1 - digit)) other) :
    other = base - 1 := by
  have below := isDigit.small
  have otherBelow := isOther.small
  have multiple : (sum + (base - 1 - digit)) % (base - 1) = 0 := by
    rw [Nat.add_mod, ← isDigit.congruent, ← Nat.add_mod]
    have whole : digit + (base - 1 - digit) = base - 1 := by omega
    rw [whole, Nat.mod_self]
  have divides : base - 1 ∣ other :=
    Nat.dvd_of_mod_eq_zero (isOther.congruent.trans multiple)
  have isPositive : 0 < other := by
    apply Nat.pos_of_ne_zero
    intro isZero
    -- Both summands are zero, but the complement of the digit zero is not.
    have bothZero := Nat.add_eq_zero_iff.mp (isOther.isZero.mp isZero)
    have digitZero := isDigit.isZero.mpr bothZero.1
    omega
  have atLeast : base - 1 ≤ other := Nat.le_of_dvd isPositive divides
  omega

end VibuxOS.Lib.OnesComplement
