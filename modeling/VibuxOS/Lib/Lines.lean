import Mathlib.Data.List.Basic
import Mathlib.Data.List.Count
import Mathlib.Tactic.Common

namespace VibuxOS.Lib

/-!
# Lines

A list is cut behind each separator.  Every line but the last one ends with a
separator, and no line is empty, so the places where lines start are all
different and a number of lines is known from the elements that they take.
-/

variable {α : Type} [DecidableEq α]

/-- Put an element in front of the first line. -/
def extendFirst (first : α) : List (List α) → List (List α)
  | [] => [[first]]
  | line :: others => (first :: line) :: others

def lines (separator : α) : List α → List (List α)
  | [] => []
  | first :: rest =>
      if first = separator then
        [first] :: lines separator rest
      else
        extendFirst first (lines separator rest)

/-- The number of elements in the lines before a line. -/
def lineOffset
    (separator : α)
    (elements : List α)
    (line : Nat) : Nat :=
  ((lines separator elements).take line).flatten.length

/-- The places behind the separators of a list. -/
def lineEnds (separator : α) : List α → List Nat
  | [] => []
  | first :: rest =>
      if first = separator then
        1 :: (lineEnds separator rest).map (· + 1)
      else
        (lineEnds separator rest).map (· + 1)

variable {separator : α}

omit [DecidableEq α] in
@[simp] theorem flatten_extendFirst
    (first : α)
    (others : List (List α)) :
    (extendFirst first others).flatten = first :: others.flatten := by
  cases others <;> rfl

omit [DecidableEq α] in
theorem flatten_take_extendFirst
    (first : α)
    (others : List (List α))
    (count : Nat) :
    ((extendFirst first others).take (count + 1)).flatten =
      first :: (others.take (count + 1)).flatten := by
  cases others <;> simp [extendFirst]

omit [DecidableEq α] in
theorem length_extendFirst
    (first : α)
    (others : List (List α)) :
    (extendFirst first others).length = max 1 others.length := by
  cases others with
  | nil => rfl
  | cons line others =>
      simp only [extendFirst, List.length_cons]
      omega

@[simp] theorem flatten_lines
    (elements : List α) :
    (lines separator elements).flatten = elements := by
  induction elements with
  | nil =>
      rfl
  | cons first rest inductionHypothesis =>
      rw [lines]
      split
      · rw [List.flatten_cons, inductionHypothesis]
        rfl
      · rw [flatten_extendFirst, inductionHypothesis]

theorem ne_nil_of_mem_lines
    {elements line : List α}
    (mem : line ∈ lines separator elements) :
    line ≠ [] := by
  induction elements generalizing line with
  | nil =>
      cases mem
  | cons first rest inductionHypothesis =>
      rw [lines] at mem
      split at mem
      · rcases List.mem_cons.mp mem with rfl | later
        · exact List.cons_ne_nil _ _
        · exact inductionHypothesis later
      · cases others : lines separator rest with
        | nil =>
            rw [others, extendFirst, List.mem_singleton] at mem
            rw [mem]
            exact List.cons_ne_nil _ _
        | cons next tail =>
            rw [others, extendFirst] at mem
            rcases List.mem_cons.mp mem with rfl | later
            · exact List.cons_ne_nil _ _
            · apply inductionHypothesis
              rw [others]
              exact List.mem_cons_of_mem _ later

theorem count_le_length_lines
    (elements : List α) :
    elements.count separator ≤ (lines separator elements).length ∧
      (lines separator elements).length ≤ elements.count separator + 1 := by
  induction elements with
  | nil =>
      exact ⟨Nat.le_refl 0, Nat.zero_le 1⟩
  | cons first rest inductionHypothesis =>
      rw [lines]
      split
      · rename_i isSeparator
        rw [isSeparator, List.count_cons_self, List.length_cons]
        omega
      · rename_i other
        rw [List.count_cons_of_ne other, length_extendFirst]
        cases rest with
        | nil =>
            exact ⟨Nat.zero_le 1, Nat.le_refl 1⟩
        | cons _ _ =>
            omega

theorem lines_eq_nil_iff
    {elements : List α} :
    lines separator elements = [] ↔ elements = [] := by
  constructor
  · intro noLine
    rw [← @flatten_lines _ _ separator elements, noLine]
    rfl
  · rintro rfl
    rfl

/-! ## Where lines start -/

theorem drop_lineOffset
    (elements : List α)
    (line : Nat) :
    elements.drop (lineOffset separator elements line) =
      ((lines separator elements).drop line).flatten := by
  have parts :
      ((lines separator elements).take line).flatten ++
          ((lines separator elements).drop line).flatten =
        elements := by
    rw [← List.flatten_append, List.take_append_drop, flatten_lines]
  have behind :=
    @List.drop_left _ ((lines separator elements).take line).flatten
      ((lines separator elements).drop line).flatten
  rwa [parts] at behind

theorem lineOffset_lt
    {elements : List α}
    {first second : Nat}
    (before : first < second)
    (inside : second ≤ (lines separator elements).length) :
    lineOffset separator elements first <
      lineOffset separator elements second := by
  have isLine : first < (lines separator elements).length := by omega
  have split :
      (lines separator elements).take second =
        (lines separator elements).take first ++
          ((lines separator elements).drop first).take (second - first) := by
    rw [← List.take_add]
    congr 1
    omega
  have nonempty :
      0 <
        (((lines separator elements).drop first).take
          (second - first)).flatten.length := by
    obtain ⟨more, isMore⟩ : ∃ more, second - first = more + 1 :=
      ⟨second - first - 1, by omega⟩
    rw [List.drop_eq_getElem_cons isLine, isMore, List.take_succ_cons,
      List.flatten_cons, List.length_append]
    have line :=
      List.length_pos_iff.mpr
        (ne_nil_of_mem_lines (List.getElem_mem isLine))
    omega
  unfold lineOffset
  rw [split, List.flatten_append, List.length_append]
  omega

theorem lineOffset_inj
    {elements : List α}
    {first second : Nat}
    (firstInside : first ≤ (lines separator elements).length)
    (secondInside : second ≤ (lines separator elements).length) :
    lineOffset separator elements first =
        lineOffset separator elements second ↔
      first = second := by
  constructor
  · intro same
    rcases Nat.lt_trichotomy first second with before | equal | behind
    · have apart := lineOffset_lt before secondInside
      omega
    · exact equal
    · have apart := lineOffset_lt behind firstInside
      omega
  · rintro rfl
    rfl

theorem length_drop_lines
    (elements : List α)
    (line : Nat) :
    lineOffset separator elements line +
        ((lines separator elements).drop line).flatten.length =
      elements.length := by
  rw [lineOffset, ← List.length_append, ← List.flatten_append,
    List.take_append_drop, flatten_lines]

section

variable
  {elements : List α}
  {first second : Nat}
  (firstInside : first ≤ (lines separator elements).length)
  (secondInside : second ≤ (lines separator elements).length)

include firstInside secondInside

theorem flatten_take_lines_inj :
    ((lines separator elements).take first).flatten =
        ((lines separator elements).take second).flatten ↔
      first = second := by
  constructor
  · intro same
    exact
      (lineOffset_inj firstInside secondInside).mp (congrArg List.length same)
  · rintro rfl
    rfl

theorem flatten_drop_lines_inj :
    ((lines separator elements).drop first).flatten =
        ((lines separator elements).drop second).flatten ↔
      first = second := by
  constructor
  · intro same
    have firstLength := @length_drop_lines _ _ separator elements first
    have secondLength := @length_drop_lines _ _ separator elements second
    rw [same] at firstLength
    exact (lineOffset_inj firstInside secondInside).mp (by omega)
  · rintro rfl
    rfl

end

theorem lineEnds_eq
    (elements : List α) :
    lineEnds separator elements =
      (List.range (elements.count separator)).map fun line =>
        lineOffset separator elements (line + 1) := by
  induction elements with
  | nil =>
      rfl
  | cons first rest inductionHypothesis =>
      rw [lineEnds]
      split
      · rename_i isSeparator
        rw [isSeparator, List.count_cons_self, List.range_succ_eq_map,
          List.map_cons, inductionHypothesis, List.map_map, List.map_map]
        congr 1
        · simp [lineOffset, lines]
        · apply List.map_congr_left
          intro line _
          simp [lineOffset, lines]
      · rename_i other
        rw [List.count_cons_of_ne other, inductionHypothesis, List.map_map]
        apply List.map_congr_left
        intro line _
        simp only [Function.comp_apply, lineOffset, lines, if_neg other,
          flatten_take_extendFirst, List.length_cons]

end VibuxOS.Lib
