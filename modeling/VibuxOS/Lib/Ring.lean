import Mathlib.Tactic.Common

namespace VibuxOS.Lib

/-!
# Positions in a ring

Positions run from `0` to `depth - 1` and then start again.  `gap` counts the
steps from one position to another, `lap` flips at every return to `0`.
-/

def nextPosition (depth position : Nat) : Nat :=
  (position + 1) % depth

/-- The number of steps from one position to another. -/
def gap (depth start stop : Nat) : Nat :=
  (stop + depth - start) % depth

/-- The position is one of those from `start` up to, but not with, `stop`. -/
def InGap (depth start stop position : Nat) : Prop :=
  position < depth ∧ gap depth start position < gap depth start stop

section Positions

variable {depth start stop position : Nat}

theorem nextPosition_eq
    (inside : position < depth) :
    nextPosition depth position =
      if position + 1 = depth then 0 else position + 1 := by
  unfold nextPosition
  split
  case isTrue atEnd =>
    rw [atEnd, Nat.mod_self]
  case isFalse before =>
    exact Nat.mod_eq_of_lt (by omega)

theorem nextPosition_lt
    (positive : 0 < depth)
    (position : Nat) :
    nextPosition depth position < depth :=
  Nat.mod_lt _ positive

theorem gap_eq
    (startInside : start < depth)
    (stopInside : stop < depth) :
    gap depth start stop =
      if start ≤ stop then stop - start else stop + depth - start := by
  unfold gap
  split
  case isTrue ordered =>
    have shifted : stop + depth - start = (stop - start) + depth := by
      omega
    rw [shifted, Nat.add_mod_right]
    exact Nat.mod_eq_of_lt (by omega)
  case isFalse =>
    exact Nat.mod_eq_of_lt (by omega)

theorem not_inGap_self
    (inside : start < depth) :
    ¬ InGap depth start start position := by
  rintro ⟨_, before⟩
  rw [gap_eq inside inside] at before
  simp at before

section

variable
  (startInside : start < depth)
  (stopInside : stop < depth)

include startInside stopInside

theorem inGap_start
    (different : start ≠ stop) :
    InGap depth start stop start := by
  refine ⟨startInside, ?_⟩
  rw [gap_eq startInside startInside, gap_eq startInside stopInside]
  split <;> split <;> omega

theorem inGap_of_next_start
    (different : start ≠ stop)
    (member : InGap depth (nextPosition depth start) stop position) :
    InGap depth start stop position := by
  obtain ⟨inside, before⟩ := member
  have nextInside : nextPosition depth start < depth :=
    nextPosition_lt (by omega) start
  refine ⟨inside, ?_⟩
  rw [gap_eq nextInside inside, gap_eq nextInside stopInside,
    nextPosition_eq startInside] at before
  rw [gap_eq startInside inside, gap_eq startInside stopInside]
  split at before <;> split at before <;> split at before <;>
    split <;> split <;> omega

theorem inGap_of_next_stop
    (member : InGap depth start (nextPosition depth stop) position) :
    position = stop ∨ InGap depth start stop position := by
  obtain ⟨inside, before⟩ := member
  have nextInside : nextPosition depth stop < depth :=
    nextPosition_lt (by omega) stop
  rw [gap_eq startInside inside, gap_eq startInside nextInside,
    nextPosition_eq stopInside] at before
  by_cases atStop : position = stop
  · exact Or.inl atStop
  · refine Or.inr ⟨inside, ?_⟩
    rw [gap_eq startInside inside, gap_eq startInside stopInside]
    split at before <;> split at before <;> split at before <;>
      split <;> split <;> omega

end

end Positions

/-! ## Laps -/

/-- The phase of the entries written on the lap that a count is in. -/
def lapPhase (depth count : Nat) : Nat :=
  (count / depth + 1) % 2

theorem lapPhase_lt
    (depth count : Nat) :
    lapPhase depth count < 2 :=
  Nat.mod_lt _ (by decide)

theorem xor_one
    {phase : Nat}
    (isPhase : phase < 2) :
    phase ^^^ 1 = 1 - phase := by
  match phase, isPhase with
  | 0, _ => rfl
  | 1, _ => rfl

theorem lap_succ
    {depth : Nat}
    (positive : 0 < depth)
    (count : Nat) :
    (if count % depth + 1 ≥ depth then 0 else count % depth + 1) =
        (count + 1) % depth ∧
      (if count % depth + 1 ≥ depth then
          lapPhase depth count ^^^ 1
        else
          lapPhase depth count) =
        lapPhase depth (count + 1) := by
  have inside := Nat.mod_lt count positive
  have division := Nat.div_add_mod count depth
  by_cases atEnd : count % depth + 1 ≥ depth
  · have whole : count + 1 = depth * (count / depth + 1) := by
      rw [Nat.mul_add, Nat.mul_one]
      omega
    rw [if_pos atEnd, if_pos atEnd, xor_one (lapPhase_lt depth count)]
    unfold lapPhase
    rw [whole, Nat.mul_mod_right, Nat.mul_div_cancel_left _ positive]
    refine ⟨rfl, ?_⟩
    omega
  · have part : count + 1 = depth * (count / depth) + (count % depth + 1) := by
      omega
    have small : count % depth + 1 < depth := by omega
    rw [if_neg atEnd, if_neg atEnd]
    unfold lapPhase
    rw [part, Nat.mul_add_mod, Nat.mod_eq_of_lt small,
      Nat.mul_add_div positive, Nat.div_eq_of_lt small, Nat.add_zero]
    exact ⟨rfl, rfl⟩

end VibuxOS.Lib
