import Mathlib.Data.Nat.Bitwise
import Mathlib.Tactic.Common

namespace VibuxOS.Lib

/-!
# Fields of a 64-bit word

Masks of the form `2 ^ k - 1` and their complements cut a word into a low and
a high part.  The lemmas give the parts as remainder and quotient, which the
address arithmetic is about, and a checked sum as the sum of the numbers.
-/

theorem or_and
    (left right mask : UInt64) :
    (left ||| right) &&& mask = (left &&& mask) ||| (right &&& mask) := by
  apply UInt64.toBitVec_inj.mp
  apply BitVec.eq_of_getLsbD_eq
  intro position _
  simp only [UInt64.toBitVec_and, UInt64.toBitVec_or, BitVec.getLsbD_and,
    BitVec.getLsbD_or, Bool.and_or_distrib_right]

theorem or_and_of_disjoint
    {extra mask : UInt64}
    (word : UInt64)
    (disjoint : extra &&& mask = 0) :
    (word ||| extra) &&& mask = word &&& mask := by
  rw [or_and, disjoint, UInt64.or_zero]

theorem or_and_ne_zero
    {extra mask : UInt64}
    (word : UInt64)
    (inside : extra &&& mask ≠ 0) :
    (word ||| extra) &&& mask ≠ 0 := by
  rw [or_and]
  intro empty
  apply inside
  have bits := congrArg UInt64.toNat empty
  rw [UInt64.toNat_or, UInt64.toNat_zero] at bits
  apply UInt64.toNat_inj.mp
  rw [UInt64.toNat_zero]
  exact (Nat.or_eq_zero_iff.mp bits).2

theorem and_not_and
    (mask bit : UInt64) :
    mask &&& ~~~bit &&& bit = 0 := by
  apply UInt64.toBitVec_inj.mp
  apply BitVec.eq_of_getLsbD_eq
  intro position inside
  simp [UInt64.toBitVec_and, UInt64.toBitVec_not, inside]

theorem not_and_of_disjoint
    {bits cleared : UInt64}
    (disjoint : cleared &&& bits = 0) :
    ~~~cleared &&& bits = bits := by
  have split := or_and cleared (~~~cleared) bits
  rw [UInt64.or_not_self, UInt64.neg_one_and, disjoint, UInt64.zero_or]
    at split
  exact split.symm

theorem and_eq_and_or_iff
    {mask extra : UInt64}
    (word : UInt64)
    (disjoint : mask &&& extra = 0) :
    word &&& mask = word &&& (mask ||| extra) ↔ word &&& extra = 0 := by
  have split :
      word &&& (mask ||| extra) = (word &&& mask) ||| (word &&& extra) := by
    rw [UInt64.and_comm, or_and, UInt64.and_comm mask, UInt64.and_comm extra]
  constructor
  · intro same
    have hidden : word &&& mask &&& extra = 0 := by
      rw [UInt64.and_assoc, disjoint, UInt64.and_zero]
    calc word &&& extra
        = (word &&& mask &&& extra) ||| (word &&& extra &&& extra) := by
          rw [hidden, UInt64.and_assoc, UInt64.and_self, UInt64.zero_or]
      _ = word &&& mask &&& extra := by
          rw [← or_and, ← split, ← same]
      _ = 0 := hidden
  · intro none
    rw [split, none, UInt64.or_zero]

theorem and_bit
    (word bit : UInt64)
    {position : Nat}
    (single : bit.toNat = 2 ^ position) :
    word &&& bit = 0 ∨ word &&& bit = bit := by
  rw [← UInt64.toNat_inj, ← UInt64.toNat_inj, UInt64.toNat_and, single,
    Nat.and_two_pow, UInt64.toNat_zero]
  cases word.toNat.testBit position with
  | false =>
      exact Or.inl (Nat.zero_mul _)
  | true =>
      exact Or.inr (Nat.one_mul _)

theorem toNat_and_low
    (word mask : UInt64)
    {width : Nat}
    (low : mask.toNat = 2 ^ width - 1) :
    (word &&& mask).toNat = word.toNat % 2 ^ width := by
  rw [UInt64.toNat_and, low, Nat.and_two_pow_sub_one_eq_mod]

theorem toNat_and_high
    (word mask : UInt64)
    {width : Nat}
    (narrow : width ≤ 64)
    (high : mask.toNat = 2 ^ 64 - 2 ^ width) :
    (word &&& mask).toNat = word.toNat - word.toNat % 2 ^ width := by
  have asShift : 2 ^ 64 - 2 ^ width = (2 ^ (64 - width) - 1) <<< width := by
    rw [Nat.shiftLeft_eq, Nat.sub_mul, ← Nat.pow_add, Nat.one_mul,
      Nat.sub_add_cancel narrow]
  have below : word.toNat / 2 ^ width < 2 ^ (64 - width) := by
    apply Nat.div_lt_of_lt_mul
    rw [← Nat.pow_add, Nat.add_sub_cancel' narrow]
    exact word.toNat_lt
  have split := Nat.div_add_mod word.toNat (2 ^ width)
  have parts :
      word.toNat &&& (2 ^ (64 - width) - 1) <<< width =
        (word.toNat >>> width &&& (2 ^ (64 - width) - 1)) <<< width := by
    apply Nat.eq_of_testBit_eq
    intro position
    simp only [Nat.testBit_and, Nat.testBit_shiftLeft, Nat.testBit_shiftRight]
    by_cases above : width ≤ position
    · simp [above]
    · simp [above]
  rw [UInt64.toNat_and, high, asShift, parts,
    Nat.and_two_pow_sub_one_eq_mod, Nat.shiftRight_eq_div_pow,
    Nat.mod_eq_of_lt below, Nat.shiftLeft_eq, Nat.mul_comm]
  omega

theorem toNat_max
    (left right : UInt64) :
    (max left right).toNat = max left.toNat right.toNat := by
  have larger : max left right = if left ≤ right then right else left := rfl
  rw [larger, Nat.max_def]
  by_cases below : left ≤ right
  · rw [if_pos below, if_pos (UInt64.le_iff_toNat_le.mp below)]
  · rw [if_neg below, if_neg (mt UInt64.le_iff_toNat_le.mpr below)]

theorem toNat_min
    (left right : UInt64) :
    (min left right).toNat = min left.toNat right.toNat := by
  have smaller : min left right = if left ≤ right then left else right := rfl
  rw [smaller, Nat.min_def]
  by_cases below : left ≤ right
  · rw [if_pos below, if_pos (UInt64.le_iff_toNat_le.mp below)]
  · rw [if_neg below, if_neg (mt UInt64.le_iff_toNat_le.mpr below)]

/-- `checked_add`: a sum that wraps around is less than its summands. -/
def checkedAdd (left right : UInt64) : Option UInt64 :=
  if left ≤ left + right then
    some (left + right)
  else
    none

theorem le_add_iff
    (left right : UInt64) :
    left ≤ left + right ↔ left.toNat + right.toNat < 2 ^ 64 := by
  have leftBound := left.toNat_lt
  have rightBound := right.toNat_lt
  rw [UInt64.le_iff_toNat_le, UInt64.toNat_add]
  omega

theorem toNat_of_checkedAdd
    {left right sum : UInt64}
    (added : checkedAdd left right = some sum) :
    sum.toNat = left.toNat + right.toNat := by
  unfold checkedAdd at added
  split at added
  · rename_i inRange
    cases added
    rw [UInt64.toNat_add, Nat.mod_eq_of_lt ((le_add_iff _ _).mp inRange)]
  · cases added

def checkedSub (left right : UInt64) : Option UInt64 :=
  if right ≤ left then
    some (left - right)
  else
    none

theorem toNat_of_checkedSub
    {left right difference : UInt64}
    (subtracted : checkedSub left right = some difference) :
    difference.toNat + right.toNat = left.toNat := by
  unfold checkedSub at subtracted
  split at subtracted
  · rename_i inRange
    cases subtracted
    rw [UInt64.toNat_sub_of_le _ _ inRange,
      Nat.sub_add_cancel (UInt64.le_iff_toNat_le.mp inRange)]
  · cases subtracted

end VibuxOS.Lib
