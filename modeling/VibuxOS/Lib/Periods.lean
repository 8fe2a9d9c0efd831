import Mathlib.Data.Set.Card
import Mathlib.Order.Bounds.Basic

namespace VibuxOS.Lib

/-!
# Events at a first time and once in every period after it

A counter that has seen all events up to now knows when the next one is.  Looking
again later it adds the whole periods that have passed since then.
-/

/-- The events that have occurred by a time. -/
def occurred (first period now : Nat) : Set Nat :=
  {index | first + index * period ≤ now}

/-- The times after now at which an event occurs. -/
def upcoming (first period now : Nat) : Set Nat :=
  {time | now < time ∧ ∃ index, time = first + index * period}

/-- So many events have occurred by a time. -/
structure Counted (first period count now : Nat) : Prop where
  occurred : ∀ index < count, first + index * period ≤ now
  notYet : now < first + count * period

/-- How many events there are to count at a time, when some have been counted. -/
def newEvents (next period now : Nat) : Nat :=
  if next ≤ now then (now - next) / period + 1 else 0

variable {first period count now later : Nat}

theorem Counted.none (early : now < first) : Counted first period 0 now where
  occurred _ inside := absurd inside (Nat.not_lt_zero _)
  notYet := by rwa [Nat.zero_mul, Nat.add_zero]

namespace Counted

theorem mem_occurred_iff
    (counted : Counted first period count now)
    (index : Nat) :
    index ∈ Lib.occurred first period now ↔ index < count := by
  constructor
  · intro isEarly
    by_contra beyond
    have inOrder :=
      Nat.mul_le_mul_right period (Nat.le_of_not_lt beyond)
    have later := counted.notYet
    have isEarly : first + index * period ≤ now := isEarly
    omega
  · exact counted.occurred index

theorem ncard_occurred (counted : Counted first period count now) :
    (Lib.occurred first period now).ncard = count := by
  have same : Lib.occurred first period now = ↑(Finset.range count) := by
    ext index
    rw [counted.mem_occurred_iff, Finset.mem_coe, Finset.mem_range]
  rw [same, Set.ncard_coe_finset, Finset.card_range]

theorem isLeast_upcoming (counted : Counted first period count now) :
    IsLeast (upcoming first period now) (first + count * period) := by
  refine ⟨⟨counted.notYet, count, rfl⟩, ?_⟩
  rintro _ ⟨isLater, index, rfl⟩
  by_contra before
  have below : index < count := by
    by_contra beyond
    have inOrder :=
      Nat.mul_le_mul_right period (Nat.le_of_not_lt beyond)
    omega
  have isEarly := counted.occurred index below
  omega

theorem again
    (positive : 0 < period)
    (early : ∀ index < count, first + index * period ≤ later) :
    Counted first period
      (count + newEvents (first + count * period) period later) later := by
  unfold newEvents
  by_cases reached : first + count * period ≤ later
  · rw [if_pos reached]
    generalize isRest : later - (first + count * period) = rest
    have whole := Nat.div_add_mod rest period
    have part := Nat.mod_lt rest positive
    constructor
    · intro index inside
      have inOrder :
          index * period ≤ (count + rest / period) * period :=
        Nat.mul_le_mul_right period (by omega)
      rw [Nat.add_mul, Nat.mul_comm (rest / period)] at inOrder
      omega
    · rw [Nat.add_mul, Nat.add_mul, Nat.one_mul, Nat.mul_comm (rest / period)]
      omega
  · rw [if_neg reached]
    exact ⟨early, Nat.lt_of_not_le reached⟩

end Counted

end VibuxOS.Lib
