import VibuxOS.Lib.Buffer

namespace VibuxOS.Lib

/-!
# A queue in a ring of cells

The queue starts at some position of the ring and goes on past its end at the
front.  Programs copy in and out in two segments, up to the end of the ring and
from its front.  In terms of the contents in order, copying out takes a prefix
and copying in appends.
-/

variable {α : Type}

/-- The `length` elements from `start` on, in order. -/
def ringContents
    (capacity : Nat)
    (cells : Nat → α)
    (start length : Nat) :
    List α :=
  (List.range length).map fun index =>
    cells ((start + index) % capacity)

/-- The first `amount` elements, copied out in two segments. -/
def ringRead
    (capacity : Nat)
    (cells : Nat → α)
    (start amount : Nat) :
    List α :=
  let first := min amount (capacity - start)
  (List.range first).map (fun index => cells (start + index)) ++
    (List.range (amount - first)).map cells

/-- The ring with `amount` elements copied in at `stop`, in two segments. -/
def ringWrite
    (capacity : Nat)
    (cells : Nat → α)
    (stop : Nat)
    (source : Nat → α)
    (amount : Nat) :
    Nat → α :=
  let first := min amount (capacity - stop)
  blit (blit cells stop source first) 0
    (fun index => source (first + index)) (amount - first)

@[simp] theorem length_ringContents
    (capacity : Nat)
    (cells : Nat → α)
    (start length : Nat) :
    (ringContents capacity cells start length).length = length := by
  simp [ringContents]

theorem wrap_eq
    {capacity position : Nat}
    (once : position < capacity + capacity) :
    position % capacity =
      if position < capacity then position else position - capacity := by
  split
  case isTrue inside =>
    exact Nat.mod_eq_of_lt inside
  case isFalse outside =>
    rw [Nat.mod_eq_sub_mod (by omega)]
    exact Nat.mod_eq_of_lt (by omega)

section Ring

variable
  {capacity start length amount : Nat}
  {cells : Nat → α}

theorem ringRead_eq_take
    (startInside : start < capacity)
    (fits : length ≤ capacity)
    (enough : amount ≤ length) :
    ringRead capacity cells start amount =
      (ringContents capacity cells start length).take amount := by
  refine List.ext_getElem ?_ ?_
  · simp only [ringRead, List.length_append, List.length_map,
      List.length_range, List.length_take, length_ringContents]
    omega
  · intro index inRead inTake
    simp only [List.length_take, length_ringContents] at inTake
    simp only [ringContents, List.getElem_take, List.getElem_map,
      List.getElem_range]
    rw [wrap_eq (by omega)]
    simp only [ringRead]
    by_cases inFirst : index < min amount (capacity - start)
    · rw [List.getElem_append_left
          (by simp only [List.length_map, List.length_range]; omega),
        if_pos (by omega)]
      simp only [List.getElem_map, List.getElem_range]
    · rw [List.getElem_append_right
          (by simp only [List.length_map, List.length_range]; omega),
        if_neg (by omega)]
      simp only [List.getElem_map, List.getElem_range,
        List.length_map, List.length_range]
      congr 1
      omega

theorem ringContents_drop :
    ringContents capacity cells ((start + amount) % capacity)
        (length - amount) =
      (ringContents capacity cells start length).drop amount := by
  refine List.ext_getElem ?_ ?_
  · simp
  · intro index _ _
    simp only [ringContents, List.getElem_drop, List.getElem_map,
      List.getElem_range, Nat.mod_add_mod, Nat.add_assoc]

theorem ringContents_write
    (startInside : start < capacity)
    (fits : length + amount ≤ capacity)
    (source : Nat → α) :
    ringContents capacity
        (ringWrite capacity cells ((start + length) % capacity) source
          amount)
        start (length + amount) =
      ringContents capacity cells start length ++
        (List.range amount).map source := by
  have stopIs := @wrap_eq capacity (start + length) (by omega)
  refine List.ext_getElem ?_ ?_
  · simp
  · intro index inside _
    simp only [length_ringContents] at inside
    have cellIs := @wrap_eq capacity (start + index) (by omega)
    simp only [ringContents, List.getElem_map, List.getElem_range]
    by_cases already : index < length
    · rw [List.getElem_append_left (by simpa using already)]
      simp only [List.getElem_map, List.getElem_range, ringWrite]
      rw [blit_outside (by split at stopIs <;> split at cellIs <;> omega),
        blit_outside (by split at stopIs <;> split at cellIs <;> omega)]
    · rw [List.getElem_append_right (by simpa using already)]
      simp only [List.getElem_map, List.getElem_range, List.length_map,
        List.length_range, ringWrite]
      by_cases inFirst :
          index - length <
            min amount (capacity - (start + length) % capacity)
      · rw [blit_outside
            (by split at stopIs <;> split at cellIs <;> omega),
          blit_inside (by split at stopIs <;> split at cellIs <;> omega)
            (by split at stopIs <;> split at cellIs <;> omega)]
        congr 1
        split at stopIs <;> split at cellIs <;> omega
      · rw [blit_inside (by omega)
            (by split at stopIs <;> split at cellIs <;> omega)]
        congr 1
        split at stopIs <;> split at cellIs <;> omega

end Ring

end VibuxOS.Lib
