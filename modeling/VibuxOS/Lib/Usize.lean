import Mathlib.Algebra.Group.Nat.Defs
import Mathlib.Tactic.Common

namespace VibuxOS.Lib.Usize

/-!
# Machine-size arithmetic on natural numbers

A `usize` is a natural number up to `usizeMax`.  Saturating operations stop at that
number, plain ones have no result beyond it.  Against a bound below the largest
number a saturating operation compares as the exact one does, so code that checks
its saturated numbers against a length has checked the exact ones.
-/

def usizeMax : Nat := 2 ^ 64 - 1

/-- `left.saturating_add(right)`. -/
def saturatingAdd (left right : Nat) : Nat :=
  min (left + right) usizeMax

/-- `left.saturating_mul(right)`. -/
def saturatingMul (left right : Nat) : Nat :=
  min (left * right) usizeMax

/-- `left + right`, where an overflow is a fault. -/
def plainAdd (left right : Nat) : Option Nat :=
  if left + right ≤ usizeMax then some (left + right) else none

/-- `left * right`, where an overflow is a fault. -/
def plainMul (left right : Nat) : Option Nat :=
  if left * right ≤ usizeMax then some (left * right) else none

/-- `left - right`, where an underflow is a fault. -/
def plainSub (left right : Nat) : Option Nat :=
  if right ≤ left then some (left - right) else none

/-! ## Saturated numbers -/

theorem saturatingAdd_eq
    {left right : Nat}
    (fits : left + right ≤ usizeMax) :
    saturatingAdd left right = left + right :=
  Nat.min_eq_left fits

theorem saturatingMul_eq
    {left right : Nat}
    (fits : left * right ≤ usizeMax) :
    saturatingMul left right = left * right :=
  Nat.min_eq_left fits

theorem saturatingAdd_le
    (left right : Nat) :
    saturatingAdd left right ≤ left + right :=
  Nat.min_le_left _ _

theorem saturatingMul_le
    (left right : Nat) :
    saturatingMul left right ≤ left * right :=
  Nat.min_le_left _ _

theorem saturatingAdd_small
    (left right : Nat) :
    saturatingAdd left right ≤ usizeMax :=
  Nat.min_le_right _ _

theorem le_saturatingAdd_iff
    {bound left right : Nat}
    (small : bound ≤ usizeMax) :
    bound ≤ saturatingAdd left right ↔ bound ≤ left + right := by
  unfold saturatingAdd
  omega

theorem saturatingAdd_le_iff
    {bound left right : Nat}
    (small : bound < usizeMax) :
    saturatingAdd left right ≤ bound ↔ left + right ≤ bound := by
  unfold saturatingAdd
  omega

theorem saturatingMul_le_iff
    {bound left right : Nat}
    (small : bound < usizeMax) :
    saturatingMul left right ≤ bound ↔ left * right ≤ bound := by
  unfold saturatingMul
  omega

/-- The end of a row of equal items, as code with a check of the end computes it. -/
theorem add_mul_le_of_saturated
    {bound offset left right : Nat}
    (small : bound < usizeMax)
    (fits :
      saturatingAdd offset (saturatingMul left right) ≤ bound) :
    offset + left * right ≤ bound := by
  have sum := (saturatingAdd_le_iff small).mp fits
  have product : left * right ≤ bound :=
    (saturatingMul_le_iff small).mp
      (Nat.le_trans (Nat.le_add_left _ _) sum)
  rwa [saturatingMul_eq (Nat.le_trans product (Nat.le_of_lt small))] at sum

theorem left_le_saturatingAdd
    {left : Nat}
    (right : Nat)
    (small : left ≤ usizeMax) :
    left ≤ saturatingAdd left right :=
  (le_saturatingAdd_iff small).mpr (Nat.le_add_right _ _)

/-! ## Plain numbers -/

theorem plainAdd_eq
    {left right : Nat}
    (fits : left + right ≤ usizeMax) :
    plainAdd left right = some (left + right) :=
  if_pos fits

theorem plainMul_eq
    {left right : Nat}
    (fits : left * right ≤ usizeMax) :
    plainMul left right = some (left * right) :=
  if_pos fits

theorem plainSub_eq
    {left right : Nat}
    (below : right ≤ left) :
    plainSub left right = some (left - right) :=
  if_pos below

end VibuxOS.Lib.Usize
