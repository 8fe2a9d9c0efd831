import Mathlib.Data.List.Nodup
import Mathlib.Tactic.Common

namespace VibuxOS.Lib

/-!
# Singly linked chains in an array of cells

A chain is a start cell and a successor function; cell `0` ends it.  `Chain`
relates the start to the list of cells visited.  A chain that ends visits no
cell twice, so the list is duplicate-free without being asked to be.
-/

variable
  {cells : List Nat}
  {cell : Nat}

/-- Following `next` from `cell` visits exactly `cells` and ends in `0`. -/
def Chain (next : Nat → Nat) : Nat → List Nat → Prop
  | cell, [] => cell = 0
  | cell, first :: rest =>
      cell = first ∧ first ≠ 0 ∧ Chain next (next first) rest

namespace Chain

variable {next after : Nat → Nat}

theorem eq_nil
    (chain : Chain next 0 cells) :
    cells = [] := by
  cases cells with
  | nil =>
      rfl
  | cons first rest =>
      exact (chain.2.1 chain.1.symm).elim

theorem exists_cons
    (chain : Chain next cell cells)
    (nonzero : cell ≠ 0) :
    ∃ rest,
      cells = cell :: rest ∧ Chain next (next cell) rest := by
  cases cells with
  | nil =>
      exact (nonzero chain).elim
  | cons first rest =>
      obtain ⟨rfl, _, later⟩ := chain
      exact ⟨rest, rfl, later⟩

theorem ne_zero
    (chain : Chain next cell cells)
    {member : Nat}
    (visited : member ∈ cells) :
    member ≠ 0 := by
  induction cells generalizing cell with
  | nil =>
      simp at visited
  | cons first rest inductionHypothesis =>
      rcases List.mem_cons.mp visited with isFirst | inRest
      · rw [isFirst]
        exact chain.2.1
      · exact inductionHypothesis chain.2.2 inRest

theorem unique
    {left right : List Nat}
    (leftChain : Chain next cell left)
    (rightChain : Chain next cell right) :
    left = right := by
  induction left generalizing cell right with
  | nil =>
      obtain rfl : cell = 0 := leftChain
      exact rightChain.eq_nil.symm
  | cons first rest inductionHypothesis =>
      obtain ⟨rfl, nonzero, later⟩ := leftChain
      obtain ⟨other, rfl, otherLater⟩ :=
        rightChain.exists_cons nonzero
      rw [inductionHypothesis later otherLater]

theorem congr
    (chain : Chain next cell cells)
    (same : ∀ visited ∈ cells, after visited = next visited) :
    Chain after cell cells := by
  induction cells generalizing cell with
  | nil =>
      exact chain
  | cons first rest inductionHypothesis =>
      obtain ⟨rfl, nonzero, later⟩ := chain
      refine ⟨rfl, nonzero, ?_⟩
      rw [same cell (by simp)]
      exact inductionHypothesis later
        (fun visited member =>
          same visited (by simp [member]))

theorem suffix
    {cell middle : Nat}
    {front back : List Nat}
    (chain : Chain next cell (front ++ middle :: back)) :
    Chain next (next middle) back := by
  induction front generalizing cell with
  | nil =>
      exact chain.2.2
  | cons first rest inductionHypothesis =>
      exact inductionHypothesis chain.2.2

theorem exists_of_mem
    {cell middle : Nat}
    (chain : Chain next cell cells)
    (visited : middle ∈ cells) :
    ∃ back, Chain next (next middle) back := by
  obtain ⟨front, back, rfl⟩ := List.append_of_mem visited
  exact ⟨back, chain.suffix⟩

theorem nodup
    (chain : Chain next cell cells) :
    cells.Nodup := by
  induction cells generalizing cell with
  | nil =>
      simp
  | cons first rest inductionHypothesis =>
      refine List.nodup_cons.mpr
        ⟨?_, inductionHypothesis chain.2.2⟩
      intro again
      -- A second visit would make the tail equal to a proper part of itself.
      obtain ⟨front, back, shape⟩ := List.append_of_mem again
      have tail : Chain next (next first) rest := chain.2.2
      have part : Chain next (next first) back := by
        rw [shape] at tail
        exact tail.suffix
      have same := tail.unique part
      rw [same] at shape
      have lengths := congrArg List.length shape
      simp only [List.length_append, List.length_cons] at lengths
      omega

theorem cons
    {cell first : Nat}
    (chain : Chain next cell cells)
    (nonzero : first ≠ 0)
    (linked : next first = cell) :
    Chain next first (first :: cells) := by
  refine ⟨rfl, nonzero, ?_⟩
  rwa [linked]

theorem unlink
    {cell previous target : Nat}
    {front back : List Nat}
    (chain :
      Chain next cell (front ++ previous :: target :: back))
    (bypass : after previous = next target)
    (same :
      ∀ visited,
        visited ∈ front ++ back →
        after visited = next visited) :
    Chain after cell (front ++ previous :: back) := by
  induction front generalizing cell with
  | nil =>
      obtain ⟨rfl, nonzero, _, _, later⟩ := chain
      refine ⟨rfl, nonzero, ?_⟩
      rw [bypass]
      exact later.congr
        (fun visited member =>
          same visited (by simpa using member))
  | cons first rest inductionHypothesis =>
      obtain ⟨rfl, nonzero, later⟩ := chain
      refine ⟨rfl, nonzero, ?_⟩
      rw [same cell (by simp)]
      exact inductionHypothesis later
        (fun visited member =>
          same visited (by
            simp only [List.cons_append, List.mem_cons]
            exact Or.inr member))

end Chain

end VibuxOS.Lib
