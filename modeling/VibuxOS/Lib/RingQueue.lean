import VibuxOS.Lib.Fifo
import Mathlib.Logic.Function.Basic

namespace VibuxOS.Lib

/-!
# A queue between two positions of a ring

The queue is kept as the position of its first element and the position behind
its last one.  Equal positions mean an empty queue, so one cell always stays
free, and an element that would take the last free cell is dropped.
-/

variable {α : Type}

/-- A ring of cells with the two positions of a queue in it. -/
structure RingQueue (α : Type) (capacity : Nat) where
  cells : Nat → α
  front : Nat
  back : Nat
  frontInside : front < capacity
  backInside : back < capacity

namespace RingQueue

variable {capacity : Nat}

/-- The queue without elements at a position of the ring. -/
def emptyAt
    (blank : α)
    (position : Nat)
    (inside : position < capacity) :
    RingQueue α capacity where
  cells := fun _ => blank
  front := position
  back := position
  frontInside := inside
  backInside := inside

/-- Put an element behind the last one; a full queue stays as it is. -/
def push
    (queue : RingQueue α capacity)
    (value : α) :
    RingQueue α capacity :=
  if (queue.back + 1) % capacity = queue.front then
    queue
  else
    { queue with
      cells := Function.update queue.cells queue.back value
      back := (queue.back + 1) % capacity
      backInside :=
        Nat.mod_lt _ (Nat.lt_of_le_of_lt (Nat.zero_le _) queue.backInside) }

/-- Take the first element, if there is one. -/
def pop
    (queue : RingQueue α capacity) :
    Option (α × RingQueue α capacity) :=
  if queue.front = queue.back then
    none
  else
    some (queue.cells queue.front,
      { queue with
        front := (queue.front + 1) % capacity
        frontInside :=
          Nat.mod_lt _
            (Nat.lt_of_le_of_lt (Nat.zero_le _) queue.frontInside) })

/-- The number of elements. -/
def length (queue : RingQueue α capacity) : Nat :=
  (queue.back + capacity - queue.front) % capacity

/-- The elements in order. -/
def contents (queue : RingQueue α capacity) : List α :=
  ringContents capacity queue.cells queue.front queue.length

@[simp] theorem length_contents
    (queue : RingQueue α capacity) :
    queue.contents.length = queue.length := by
  simp [contents]

section

variable (queue : RingQueue α capacity)

theorem length_eq :
    queue.length =
      if queue.front ≤ queue.back then
        queue.back - queue.front
      else
        queue.back + capacity - queue.front := by
  have frontInside := queue.frontInside
  have backInside := queue.backInside
  unfold length
  rw [@wrap_eq capacity _ (by omega)]
  split <;> split <;> omega

theorem length_lt :
    queue.length < capacity :=
  Nat.mod_lt _ (Nat.lt_of_le_of_lt (Nat.zero_le _) queue.frontInside)

theorem back_eq :
    (queue.front + queue.length) % capacity = queue.back := by
  have frontInside := queue.frontInside
  have backInside := queue.backInside
  rw [length_eq]
  split
  case isTrue ordered =>
    rw [Nat.add_sub_of_le ordered, Nat.mod_eq_of_lt backInside]
  case isFalse wrapped =>
    rw [show queue.front + (queue.back + capacity - queue.front) =
      queue.back + capacity by omega, Nat.add_mod_right,
      Nat.mod_eq_of_lt backInside]

theorem next_back_eq_front_iff :
    (queue.back + 1) % capacity = queue.front ↔
      queue.length + 1 = capacity := by
  have frontInside := queue.frontInside
  have backInside := queue.backInside
  rw [length_eq, @wrap_eq capacity _ (by omega)]
  split <;> split <;> omega

theorem front_eq_back_iff :
    queue.front = queue.back ↔ queue.contents = [] := by
  have frontInside := queue.frontInside
  have backInside := queue.backInside
  rw [← List.length_eq_zero_iff, length_contents, length_eq]
  split <;> omega

end

@[simp] theorem contents_emptyAt
    (blank : α)
    {position : Nat}
    (inside : position < capacity) :
    (emptyAt blank position inside).contents = [] :=
  (front_eq_back_iff _).mp rfl

theorem push_of_full
    {queue : RingQueue α capacity}
    (full : queue.length + 1 = capacity)
    (value : α) :
    queue.push value = queue := by
  unfold push
  rw [if_pos ((next_back_eq_front_iff queue).mpr full)]

theorem contents_push
    {queue : RingQueue α capacity}
    (room : queue.length + 1 < capacity)
    (value : α) :
    (queue.push value).contents = queue.contents ++ [value] := by
  have frontInside := queue.frontInside
  have backInside := queue.backInside
  have notFull : ¬ (queue.back + 1) % capacity = queue.front := by
    rw [next_back_eq_front_iff]
    omega
  have longer : (queue.push value).length = queue.length + 1 := by
    unfold push
    rw [if_neg notFull]
    rw [next_back_eq_front_iff] at notFull
    rw [length_eq] at notFull
    rw [length_eq, length_eq]
    simp only
    rw [@wrap_eq capacity (queue.back + 1) (by omega)]
    split <;> split at notFull <;> split <;> omega
  unfold contents
  rw [longer]
  unfold push
  rw [if_neg notFull]
  have written :=
    @ringContents_write α capacity queue.front queue.length 1 queue.cells
      frontInside (by omega) (fun _ => value)
  have oneCell :
      ringWrite capacity queue.cells
          ((queue.front + queue.length) % capacity) (fun _ => value) 1 =
        Function.update queue.cells queue.back value := by
    rw [back_eq]
    funext position
    unfold ringWrite
    have allFirst : min 1 (capacity - queue.back) = 1 := by omega
    simp only [allFirst, Nat.sub_self]
    rw [blit_outside (by omega)]
    by_cases same : position = queue.back
    · subst same
      rw [blit_inside (by omega) (by omega), Function.update_self]
    · rw [blit_outside (by omega), Function.update_of_ne same]
  rw [oneCell] at written
  simpa using written

theorem contents_push_of_room
    {queue : RingQueue α capacity}
    {value : α}
    (roomLeft : (queue.push value).length + 1 < capacity) :
    (queue.push value).contents = queue.contents ++ [value] := by
  by_cases full : queue.length + 1 = capacity
  · rw [push_of_full full] at roomLeft
    exact absurd full (by omega)
  · have shorter := queue.length_lt
    exact contents_push (by omega) value

theorem length_le_length_push
    (queue : RingQueue α capacity)
    (value : α) :
    queue.length ≤ (queue.push value).length := by
  by_cases full : queue.length + 1 = capacity
  · exact Nat.le_of_eq (by rw [push_of_full full])
  · have shorter := queue.length_lt
    rw [← length_contents, ← length_contents,
      contents_push (by omega) value, List.length_append]
    exact Nat.le_add_right _ _

theorem length_le_length_pushes
    (values : List α)
    (queue : RingQueue α capacity) :
    queue.length ≤ (values.foldl push queue).length := by
  induction values generalizing queue with
  | nil =>
      exact Nat.le_refl _
  | cons value rest inductionHypothesis =>
      exact Nat.le_trans (length_le_length_push queue value)
        (inductionHypothesis (queue.push value))

theorem contents_pushes_of_room
    {values : List α}
    {queue : RingQueue α capacity}
    (roomLeft : (values.foldl push queue).length + 1 < capacity) :
    (values.foldl push queue).contents = queue.contents ++ values := by
  induction values generalizing queue with
  | nil =>
      simp
  | cons value rest inductionHypothesis =>
      have laterLonger := length_le_length_pushes rest (queue.push value)
      rw [List.foldl_cons] at roomLeft ⊢
      rw [inductionHypothesis roomLeft,
        contents_push_of_room (by omega), List.append_assoc,
        List.singleton_append]

theorem pop_eq_none_iff
    (queue : RingQueue α capacity) :
    queue.pop = none ↔ queue.contents = [] := by
  rw [← front_eq_back_iff]
  unfold pop
  split
  case isTrue same =>
    simp [same]
  case isFalse apart =>
    simp [apart]

theorem contents_of_pop
    {queue rest : RingQueue α capacity}
    {value : α}
    (taken : queue.pop = some (value, rest)) :
    queue.contents = value :: rest.contents := by
  unfold pop at taken
  split at taken
  case isTrue =>
    exact absurd taken (by simp)
  case isFalse apart =>
    have frontInside := queue.frontInside
    have backInside := queue.backInside
    obtain ⟨rfl, rfl⟩ := Prod.mk.inj (Option.some.inj taken)
    have positive : 0 < queue.length := by
      rw [length_eq]
      split <;> omega
    have shorter :
        RingQueue.length
            { queue with
              front := (queue.front + 1) % capacity
              frontInside := Nat.mod_lt _ (by omega) } =
          queue.length - 1 := by
      rw [length_eq, length_eq]
      simp only
      rw [@wrap_eq capacity (queue.front + 1) (by omega)]
      split <;> split <;> split <;> omega
    unfold contents
    rw [shorter]
    simp only
    rw [@ringContents_drop α capacity queue.front queue.length 1 queue.cells]
    obtain ⟨less, lengthIs⟩ := Nat.exists_eq_add_of_lt positive
    rw [lengthIs]
    simp [ringContents, List.range_succ_eq_map,
      Nat.mod_eq_of_lt frontInside]

theorem pop_of_contents
    {queue : RingQueue α capacity}
    {value : α}
    {elements : List α}
    (contentsAre : queue.contents = value :: elements) :
    ∃ rest : RingQueue α capacity,
      queue.pop = some (value, rest) ∧ rest.contents = elements := by
  cases taken : queue.pop with
  | none =>
      rw [(pop_eq_none_iff queue).mp taken] at contentsAre
      exact absurd contentsAre (by simp)
  | some pair =>
      obtain ⟨first, rest⟩ := pair
      rw [contents_of_pop taken] at contentsAre
      obtain ⟨rfl, rfl⟩ := List.cons.inj contentsAre
      exact ⟨rest, rfl, rfl⟩

end RingQueue

end VibuxOS.Lib
