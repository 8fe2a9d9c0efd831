import Mathlib.Tactic.Common

namespace VibuxOS.Lib

/-!
# First-fit search for a run of free cells

The search counts consecutive free cells and stops when it has counted enough.
It finds a free run whenever there is one, and what it finds is one.
-/

/-- The cells `start, …, start + count - 1` are free. -/
def FreeRun (used : Nat → Bool) (start count : Nat) : Prop :=
  ∀ cell,
    start ≤ cell →
    cell < start + count →
    used cell = false

/--
Scan `count` cells from `cell` on, with `found` free cells counted so far since
`start`.
-/
def firstFit
    (used : Nat → Bool)
    (needed : Nat) :
    Nat → Nat → Nat → Nat → Nat × Nat
  | 0, _, start, found => (start, found)
  | count + 1, cell, start, found =>
      if used cell then
        firstFit used needed count (cell + 1) start 0
      else
        let start := if found = 0 then cell else start
        if found + 1 = needed then
          (start, found + 1)
        else
          firstFit used needed count (cell + 1) start (found + 1)

/--
What the scan knows at a cell: how long the free run ending there is, and that
no run long enough ends before.
-/
structure Scanning
    (used : Nat → Bool)
    (needed low cell start found : Nat) : Prop where
  short : found < needed
  above : low + found ≤ cell
  counted : found ≠ 0 → start + found = cell
  free : FreeRun used (cell - found) found
  maximal : low + found = cell ∨ used (cell - found - 1) = true
  noneBefore :
    ∀ other,
      low ≤ other →
      other + needed ≤ cell →
      ¬ FreeRun used other needed

namespace Scanning

variable
  {used : Nat → Bool}
  {needed low cell start found : Nat}

theorem initial
    (positive : 0 < needed) :
    Scanning used needed low low 0 0 where
  short := positive
  above := by omega
  counted := by simp
  free := by
    intro other lower upper
    omega
  maximal := Or.inl rfl
  noneBefore := by
    intro other lower upper
    omega

section

variable (scanning : Scanning used needed low cell start found)

include scanning

theorem stepUsed
    (isUsed : used cell = true) :
    Scanning used needed low (cell + 1) start 0 where
  short := by
    have short := scanning.short
    omega
  above := by
    have above := scanning.above
    omega
  counted := by simp
  free := by
    intro other lower upper
    omega
  maximal := Or.inr isUsed
  noneBefore := by
    intro other lower upper freeRun
    have short := scanning.short
    by_cases before : other + needed ≤ cell
    · exact scanning.noneBefore other lower before freeRun
    · have isFree := freeRun cell (by omega) (by omega)
      rw [isUsed] at isFree
      cases isFree

theorem extend
    (isFree : used cell = false) :
    FreeRun used (cell - found) (found + 1) := by
  intro other lower upper
  have above := scanning.above
  by_cases isCell : other = cell
  · rw [isCell, isFree]
  · exact scanning.free other lower (by omega)

theorem stepFree
    (isFree : used cell = false)
    (incomplete : found + 1 ≠ needed) :
    Scanning used needed low (cell + 1)
      (if found = 0 then cell else start) (found + 1) where
  short := by
    have short := scanning.short
    omega
  above := by
    have above := scanning.above
    omega
  counted := by
    intro _
    split
    case isTrue isFirst =>
      omega
    case isFalse behind =>
      have counted := scanning.counted behind
      omega
  free := by
    rw [Nat.add_sub_add_right]
    exact scanning.extend isFree
  maximal := by
    rw [Nat.add_sub_add_right]
    have above := scanning.above
    rcases scanning.maximal with fromLow | bounded
    · exact Or.inl (by omega)
    · exact Or.inr bounded
  noneBefore := by
    intro other lower upper freeRun
    have short := scanning.short
    by_cases before : other + needed ≤ cell
    · exact scanning.noneBefore other lower before freeRun
    · -- A run ending here is longer than the one counted, so it has a used cell.
      rcases scanning.maximal with fromLow | bounded
      · omega
      · have isFreeBelow :=
          freeRun (cell - found - 1) (by omega) (by omega)
        rw [bounded] at isFreeBelow
        cases isFreeBelow

end

end Scanning

theorem firstFit_of_scanning
    {used : Nat → Bool}
    {needed low count cell start found : Nat}
    (scanning : Scanning used needed low cell start found) :
    let result := firstFit used needed count cell start found
    (result.2 = needed ∧
        low ≤ result.1 ∧
        result.1 + needed ≤ cell + count ∧
        FreeRun used result.1 needed) ∨
      (result.2 ≠ needed ∧
        ∀ other,
          low ≤ other →
          other + needed ≤ cell + count →
          ¬ FreeRun used other needed) := by
  induction count generalizing cell start found with
  | zero =>
      exact Or.inr
        ⟨Nat.ne_of_lt scanning.short, scanning.noneBefore⟩
  | succ count inductionHypothesis =>
      have next : cell + (count + 1) = cell + 1 + count := by omega
      simp only [firstFit, next]
      cases isUsed : used cell with
      | true =>
          exact inductionHypothesis (scanning.stepUsed isUsed)
      | false =>
          by_cases complete : found + 1 = needed
          · simp only [Bool.false_eq_true, if_false, complete, if_true]
            have extended := scanning.extend isUsed
            rw [complete] at extended
            have above := scanning.above
            have atStart :
                (if found = 0 then cell else start) =
                  cell - found := by
              split
              case isTrue isFirst =>
                omega
              case isFalse behind =>
                have counted := scanning.counted behind
                omega
            rw [atStart]
            exact Or.inl ⟨trivial, by omega, by omega, extended⟩
          · simp only [Bool.false_eq_true, if_false, complete]
            exact inductionHypothesis
              (scanning.stepFree isUsed complete)

theorem firstFit_spec
    (used : Nat → Bool)
    {needed : Nat}
    (low count : Nat)
    (positive : 0 < needed) :
    let result := firstFit used needed count low 0 0
    (result.2 = needed ∧
        low ≤ result.1 ∧
        result.1 + needed ≤ low + count ∧
        FreeRun used result.1 needed) ∨
      (result.2 ≠ needed ∧
        ∀ other,
          low ≤ other →
          other + needed ≤ low + count →
          ¬ FreeRun used other needed) :=
  firstFit_of_scanning (.initial positive)

end VibuxOS.Lib
