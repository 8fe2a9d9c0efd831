import Mathlib.Data.List.Basic
import Mathlib.Tactic.Common

namespace VibuxOS.Lib.Radix

/-!
# Multi-level tables in a flat memory

A table occupies a frame and has slots; the entry in a slot may point to a
table of the level below.  A walk follows one index per level, from the root
down to the first entry that points to no table.

Nothing keeps two tables of a flat memory from being the same frame, so the
lemmas are about the slots a walk visits: what a change of the memory outside
them does to the walk, and when the walks of two keys stay apart.
-/

variable
  {level : Nat}
  {lower : Nat}

/-- A place in a table. -/
structure Slot (φ : Type) where
  frame : φ
  index : Nat
  deriving DecidableEq

/-- Which entries of a level point to a table, and to which one. -/
structure Shape (φ ε : Type) where
  descends : Nat → ε → Bool
  child : ε → φ

variable {φ ε : Type} (shape : Shape φ ε)

/-- The slots a walk visits below a table, each with its level. -/
def visits
    (memory : Slot φ → ε)
    (key : Nat → Nat) :
    Nat → φ → List (Nat × Slot φ)
  | 0, _ => []
  | level + 1, frame =>
      (level + 1, ⟨frame, key (level + 1)⟩) ::
        if shape.descends (level + 1) (memory ⟨frame, key (level + 1)⟩) then
          visits memory key level
            (shape.child (memory ⟨frame, key (level + 1)⟩))
        else
          []

variable {shape} {memory changed : Slot φ → ε} {key other : Nat → Nat}

/-! ## The slots of one walk -/

section

variable
  {frame : φ}
  {visit : Nat × Slot φ}
  (visited : visit ∈ visits shape memory key level frame)

include visited

theorem level_of_mem_visits :
    1 ≤ visit.1 ∧ visit.1 ≤ level := by
  induction level generalizing frame with
  | zero =>
      cases visited
  | succ level inductionHypothesis =>
      rw [visits, List.mem_cons] at visited
      rcases visited with rfl | below
      · exact ⟨Nat.succ_le_succ (Nat.zero_le _), Nat.le_refl _⟩
      · split at below
        · have bounds := inductionHypothesis below
          exact ⟨bounds.1, Nat.le_succ_of_le bounds.2⟩
        · cases below

theorem index_of_mem_visits :
    visit.2.index = key visit.1 := by
  induction level generalizing frame with
  | zero =>
      cases visited
  | succ level inductionHypothesis =>
      rw [visits, List.mem_cons] at visited
      rcases visited with rfl | below
      · rfl
      · split at below
        · exact inductionHypothesis below
        · cases below

end

theorem visit_unique
    {frame : φ}
    {here there : Nat × Slot φ}
    (hereVisited : here ∈ visits shape memory key level frame)
    (thereVisited : there ∈ visits shape memory key level frame)
    (sameLevel : here.1 = there.1) :
    here = there := by
  induction level generalizing frame with
  | zero =>
      cases hereVisited
  | succ level inductionHypothesis =>
      rw [visits, List.mem_cons] at hereVisited thereVisited
      rcases hereVisited with rfl | hereBelow
      · rcases thereVisited with rfl | thereBelow
        · rfl
        · split at thereBelow
          · have bounds := level_of_mem_visits thereBelow
            dsimp only at sameLevel
            omega
          · cases thereBelow
      · split at hereBelow
        · rcases thereVisited with rfl | thereBelow
          · have bounds := level_of_mem_visits hereBelow
            dsimp only at sameLevel
            omega
          · rename_i descends
            rw [if_pos descends] at thereBelow
            exact inductionHypothesis hereBelow thereBelow
        · cases hereBelow

theorem visit_below
    {level lower : Nat}
    {frame : φ}
    {slot : Slot φ}
    (visited :
      (lower + 2, slot) ∈ visits shape memory key level frame)
    (descends : shape.descends (lower + 2) (memory slot) = true) :
    (lower + 1, ⟨shape.child (memory slot), key (lower + 1)⟩) ∈
      visits shape memory key level frame := by
  induction level generalizing frame with
  | zero =>
      cases visited
  | succ level inductionHypothesis =>
      rw [visits, List.mem_cons] at visited ⊢
      rcases visited with same | below
      · obtain ⟨sameLevel, rfl⟩ := Prod.mk.inj same
        obtain rfl : level = lower + 1 := (Nat.succ.inj sameLevel).symm
        refine Or.inr ?_
        rw [if_pos descends, visits]
        exact List.mem_cons_self
      · split at below
        · rename_i goesOn
          rw [if_pos goesOn]
          exact Or.inr (inductionHypothesis below)
        · cases below

theorem visit_first
    (level : Nat)
    (frame : φ) :
    (level + 1, ⟨frame, key (level + 1)⟩) ∈
      visits shape memory key (level + 1) frame := by
  rw [visits]
  exact List.mem_cons_self

theorem getLast?_visits
    (level : Nat)
    (frame : φ) :
    (visits shape memory key (level + 2) frame).getLast? =
      if shape.descends (level + 2)
          (memory ⟨frame, key (level + 2)⟩) then
        (visits shape memory key (level + 1)
          (shape.child (memory ⟨frame, key (level + 2)⟩))).getLast?
      else
        some (level + 2, ⟨frame, key (level + 2)⟩) := by
  rw [visits]
  split
  · rw [visits, List.getLast?_cons_cons]
  · rfl

theorem getLast?_visits_one
    (frame : φ) :
    (visits shape memory key 1 frame).getLast? =
      some (1, ⟨frame, key 1⟩) := by
  rw [visits]
  split <;> rfl

/-! ## Changes of the memory -/

/-- On the slots of a list the walk goes on as before. -/
def SameTurns
    (shape : Shape φ ε)
    (memory changed : Slot φ → ε)
    (visited : List (Nat × Slot φ)) : Prop :=
  ∀ visit ∈ visited,
    shape.descends visit.1 (changed visit.2) =
        shape.descends visit.1 (memory visit.2) ∧
      (shape.descends visit.1 (memory visit.2) = true →
        shape.child (changed visit.2) = shape.child (memory visit.2))

theorem visits_congr
    {frame : φ}
    (same :
      SameTurns shape memory changed
        (visits shape memory key level frame)) :
    visits shape changed key level frame =
      visits shape memory key level frame := by
  induction level generalizing frame with
  | zero =>
      rfl
  | succ level inductionHypothesis =>
      have first := same _ (visit_first level frame)
      rw [visits, visits, first.1]
      split
      · rename_i descends
        rw [first.2 descends]
        rw [inductionHypothesis]
        intro visit visited
        apply same
        rw [visits, if_pos descends]
        exact List.mem_cons_of_mem _ visited
      · rfl

theorem visits_frame
    {frame : φ}
    (off :
      ∀ visit ∈ visits shape memory key level frame,
        changed visit.2 = memory visit.2) :
    visits shape changed key level frame =
      visits shape memory key level frame := by
  apply visits_congr
  intro visit visited
  rw [off visit visited]
  exact ⟨rfl, fun _ => rfl⟩

/-- An entry that comes to point to a table lengthens the walks through it. -/
theorem visits_grow
    {level lower : Nat}
    {frame : φ}
    {slot : Slot φ}
    (visited : (lower + 1, slot) ∈ visits shape memory key level frame)
    (stopped : shape.descends (lower + 1) (memory slot) = false)
    (goesOn : shape.descends (lower + 1) (changed slot) = true)
    (off :
      ∀ visit ∈ visits shape memory key level frame,
        visit ≠ (lower + 1, slot) →
        changed visit.2 = memory visit.2) :
    visits shape changed key level frame =
      visits shape memory key level frame ++
        visits shape changed key lower (shape.child (changed slot)) := by
  induction level generalizing frame with
  | zero =>
      cases visited
  | succ level inductionHypothesis =>
      by_cases here : lower + 1 = level + 1
      · have first :=
          visit_unique visited (visit_first level frame) here
        obtain ⟨sameLevel, rfl⟩ := Prod.mk.inj first
        obtain rfl : level = lower := (Nat.succ.inj sameLevel).symm
        rw [visits, visits, if_pos goesOn, stopped]
        rfl
      · have kept :=
          off _ (visit_first level frame) (by
            intro same
            exact here (congrArg Prod.fst same).symm)
        dsimp only at kept
        rw [visits, List.mem_cons] at visited
        rcases visited with same | below
        · exact absurd (congrArg Prod.fst same) here
        · split at below
          · rename_i descends
            rw [visits, visits, kept, if_pos descends, if_pos descends,
              List.cons_append]
            congr 1
            apply inductionHypothesis below
            intro visit visitedBelow different
            apply off visit _ different
            rw [visits, if_pos descends]
            exact List.mem_cons_of_mem _ visitedBelow
          · cases below

/-! ## Walks that stay apart -/

/-- A walk with a slot of a new table, where it passed the slot of the parent. -/
def grown
    [DecidableEq φ]
    (walk : List (Nat × Slot φ))
    (key : Nat → Nat)
    (lower : Nat)
    (slot : Slot φ)
    (table : φ) :
    List (Nat × Slot φ) :=
  if (lower + 1, slot) ∈ walk then
    walk ++ [(lower, ⟨table, key lower⟩)]
  else
    walk

theorem mem_grown
    [DecidableEq φ]
    {walk : List (Nat × Slot φ)}
    {slot : Slot φ}
    {table : φ}
    {visit : Nat × Slot φ} :
    visit ∈ grown walk key lower slot table ↔
      visit ∈ walk ∨
        (lower + 1, slot) ∈ walk ∧
          visit = (lower, ⟨table, key lower⟩) := by
  rw [grown]
  split
  · rename_i passed
    simp [passed]
  · rename_i missed
    simp [missed]

theorem visits_grown
    [DecidableEq φ]
    {level lower : Nat}
    {frame : φ}
    {slot : Slot φ}
    (stopped : shape.descends (lower + 2) (memory slot) = false)
    (goesOn : shape.descends (lower + 2) (changed slot) = true)
    (empty :
      ∀ index,
        shape.descends (lower + 1)
          (changed ⟨shape.child (changed slot), index⟩) = false)
    (placed :
      ∀ visit ∈ visits shape memory key level frame,
        visit.2 = slot →
        visit.1 = lower + 2)
    (off :
      ∀ visit ∈ visits shape memory key level frame,
        visit.2 ≠ slot →
        changed visit.2 = memory visit.2) :
    visits shape changed key level frame =
      grown (visits shape memory key level frame) key (lower + 1) slot
        (shape.child (changed slot)) := by
  rw [grown]
  split
  · rename_i passed
    rw [visits_grow passed stopped goesOn]
    · rw [visits, empty, if_neg Bool.false_ne_true]
    · intro visit visited different
      apply off visit visited
      intro same
      exact different (Prod.ext (placed visit visited same) same)
  · rename_i missed
    apply visits_frame
    intro visit visited
    apply off visit visited
    intro same
    apply missed
    have here : visit = (lower + 2, slot) :=
      Prod.ext (placed visit visited same) same
    rwa [here] at visited

/-! ## Where a walk ends -/

theorem exists_getLast?_visits
    (level : Nat)
    (frame : φ) :
    ∃ visit,
      (visits shape memory key (level + 1) frame).getLast? = some visit ∧
        visit ∈ visits shape memory key (level + 1) frame := by
  rw [visits]
  exact ⟨_, List.getLast?_eq_some_getLast (List.cons_ne_nil _ _),
    List.getLast_mem _⟩

theorem getLast?_of_stopped
    {level lower : Nat}
    {frame : φ}
    {slot : Slot φ}
    (visited : (lower, slot) ∈ visits shape memory key level frame)
    (stopped : shape.descends lower (memory slot) = false) :
    (visits shape memory key level frame).getLast? =
      some (lower, slot) := by
  induction level generalizing frame with
  | zero =>
      cases visited
  | succ level inductionHypothesis =>
      rw [visits, List.mem_cons] at visited
      rcases visited with same | below
      · obtain ⟨rfl, rfl⟩ := Prod.mk.inj same
        rw [visits, stopped]
        rfl
      · split at below
        · rename_i descends
          cases level with
          | zero =>
              cases below
          | succ level =>
              rw [getLast?_visits, if_pos descends,
                inductionHypothesis below]
        · cases below

theorem lowest_of_getLast?
    {frame : φ}
    {last visit : Nat × Slot φ}
    (ends :
      (visits shape memory key level frame).getLast? = some last)
    (visited : visit ∈ visits shape memory key level frame) :
    last.1 ≤ visit.1 := by
  induction level generalizing frame with
  | zero =>
      cases visited
  | succ level inductionHypothesis =>
      have ofLast := level_of_mem_visits (List.mem_of_getLast? ends)
      rw [visits] at ends
      rw [visits, List.mem_cons] at visited
      rcases visited with rfl | below
      · exact ofLast.2
      · split at below
        · rename_i descends
          cases level with
          | zero =>
              cases below
          | succ level =>
              rw [if_pos descends, visits, List.getLast?_cons_cons] at ends
              apply inductionHypothesis _ below
              rw [visits, ends]
        · cases below

theorem stopped_of_getLast?
    {level lower : Nat}
    {frame : φ}
    {slot : Slot φ}
    (ends :
      (visits shape memory key level frame).getLast? =
        some (lower + 2, slot)) :
    shape.descends (lower + 2) (memory slot) = false := by
  cases descends : shape.descends (lower + 2) (memory slot) with
  | false =>
      rfl
  | true =>
      have below := visit_below (List.mem_of_getLast? ends) descends
      exact absurd (lowest_of_getLast? ends below) (Nat.not_succ_le_self _)

/-! ## Trees -/

variable (shape)

/-- A walk reaches the table in a frame. -/
def Reaches
    {ι : Type}
    (memory : Slot φ → ε)
    (keys : ι → Nat → Nat)
    (top : Nat)
    (root frame : φ) : Prop :=
  ∃ name, ∃ visit ∈ visits shape memory (keys name) top root,
    visit.2.frame = frame

/-- Walks that reach the same table have come the same way. -/
def Tree
    {ι : Type}
    (memory : Slot φ → ε)
    (keys : ι → Nat → Nat)
    (top : Nat)
    (root : φ) : Prop :=
  ∀ left right here there,
    here ∈ visits shape memory (keys left) top root →
    there ∈ visits shape memory (keys right) top root →
    here.2.frame = there.2.frame →
    here.1 = there.1 ∧
      ∀ upper, here.1 < upper → upper ≤ top → keys left upper = keys right upper

variable {shape} {ι : Type} {keys : ι → Nat → Nat} {top : Nat} {root : φ}

theorem Reaches.first
    (name : ι)
    (level : Nat) :
    Reaches shape memory keys (level + 1) root root :=
  ⟨name, _, visit_first level root, rfl⟩

namespace Tree

theorem same_slot
    (tree : Tree shape memory keys top root)
    {left right : ι}
    {here there : Nat × Slot φ}
    (hereVisited : here ∈ visits shape memory (keys left) top root)
    (thereVisited : there ∈ visits shape memory (keys right) top root)
    (sameSlot : here.2 = there.2) :
    here = there ∧
      ∀ upper, here.1 ≤ upper → upper ≤ top → keys left upper = keys right upper := by
  obtain ⟨sameLevel, above⟩ :=
    tree left right here there hereVisited thereVisited
      (congrArg Slot.frame sameSlot)
  refine ⟨Prod.ext sameLevel sameSlot, ?_⟩
  intro upper atLeast atMost
  rcases Nat.eq_or_lt_of_le atLeast with rfl | higher
  · have hereIndex := index_of_mem_visits hereVisited
    have thereIndex := index_of_mem_visits thereVisited
    rw [← hereIndex, sameSlot, thereIndex, sameLevel]
  · exact above upper higher atMost

theorem congr
    (tree : Tree shape memory keys top root)
    (same :
      ∀ name,
        visits shape changed (keys name) top root =
          visits shape memory (keys name) top root) :
    Tree shape changed keys top root := by
  intro left right here there hereVisited thereVisited
  rw [same] at hereVisited thereVisited
  exact tree left right here there hereVisited thereVisited

theorem grow
    [DecidableEq φ]
    {slot : Slot φ}
    {table : φ}
    (tree : Tree shape memory keys top root)
    (new : ¬ Reaches shape memory keys top root table)
    (walks :
      ∀ name,
        visits shape changed (keys name) top root =
          grown (visits shape memory (keys name) top root) (keys name) lower
            slot table) :
    Tree shape changed keys top root := by
  intro left right here there hereVisited thereVisited sameFrame
  rw [walks, mem_grown] at hereVisited thereVisited
  rcases hereVisited with hereOld | ⟨herePassed, rfl⟩
  · rcases thereVisited with thereOld | ⟨_, rfl⟩
    · exact tree left right here there hereOld thereOld sameFrame
    · exact absurd ⟨left, here, hereOld, sameFrame⟩ new
  · rcases thereVisited with thereOld | ⟨therePassed, rfl⟩
    · exact absurd ⟨right, there, thereOld, sameFrame.symm⟩ new
    · refine ⟨rfl, ?_⟩
      exact (tree.same_slot herePassed therePassed rfl).2

end Tree

theorem Reaches.of_grown
    [DecidableEq φ]
    {slot : Slot φ}
    {table frame : φ}
    (walks :
      ∀ name,
        visits shape changed (keys name) top root =
          grown (visits shape memory (keys name) top root) (keys name) lower
            slot table)
    (reaches : Reaches shape changed keys top root frame) :
    Reaches shape memory keys top root frame ∨ frame = table := by
  obtain ⟨name, visit, visited, rfl⟩ := reaches
  rw [walks, mem_grown] at visited
  rcases visited with old | ⟨_, rfl⟩
  · exact Or.inl ⟨name, visit, old, rfl⟩
  · exact Or.inr rfl

theorem Reaches.grow
    [DecidableEq φ]
    {slot : Slot φ}
    {table frame : φ}
    (walks :
      ∀ name,
        visits shape changed (keys name) top root =
          grown (visits shape memory (keys name) top root) (keys name) lower
            slot table)
    (reaches : Reaches shape memory keys top root frame) :
    Reaches shape changed keys top root frame := by
  obtain ⟨name, visit, visited, rfl⟩ := reaches
  refine ⟨name, visit, ?_, rfl⟩
  rw [walks, mem_grown]
  exact Or.inl visited

end VibuxOS.Lib.Radix
