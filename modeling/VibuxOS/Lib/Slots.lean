import Mathlib.Data.List.Perm.Basic
import Mathlib.Tactic.Common

namespace VibuxOS.Lib

/-!
# Tables of slots

A table is a list of slots, some of which are used.  An entry goes into the
first slot that is free, and a search takes the first used entry that is
wanted out of its slot.  The lemmas follow the bag of used entries.
-/

namespace Slots

variable {α : Type}
variable {used wanted : α → Bool}
variable {entry empty : α}
variable {table : List α}

/-- Put an entry into the first free slot, if there is one. -/
def put (used : α → Bool) (entry : α) : List α → List α
  | [] => []
  | slot :: rest =>
      if used slot then
        slot :: put used entry rest
      else
        entry :: rest

/-- Take the first used entry that is wanted. -/
def take
    (used wanted : α → Bool)
    (empty : α) :
    List α → Option α × List α
  | [] => (none, [])
  | slot :: rest =>
      if used slot && wanted slot then
        (some slot, empty :: rest)
      else
        ((take used wanted empty rest).1,
          slot :: (take used wanted empty rest).2)

def entries (used : α → Bool) (table : List α) : List α :=
  table.filter used

theorem entries_put
    (isUsed : used entry = true)
    (free : ∃ slot ∈ table, used slot = false) :
    (entries used (put used entry table)).Perm
      (entry :: entries used table) := by
  induction table with
  | nil =>
      obtain ⟨_, among, _⟩ := free
      cases among
  | cons slot rest inductionHypothesis =>
      cases slotUsed : used slot with
      | true =>
          have freeRest : ∃ slot ∈ rest, used slot = false := by
            obtain ⟨other, among, isFree⟩ := free
            rcases List.mem_cons.mp among with rfl | later
            · rw [slotUsed] at isFree
              cases isFree
            · exact ⟨other, later, isFree⟩
          simp only [entries, put, slotUsed, if_true, List.filter_cons]
          exact ((inductionHypothesis freeRest).cons slot).trans
            (List.Perm.swap entry slot _)
      | false =>
          simp [entries, put, slotUsed, isUsed]

theorem put_of_full
    (full : ∀ slot ∈ table, used slot = true) :
    put used entry table = table := by
  induction table with
  | nil =>
      rfl
  | cons slot rest inductionHypothesis =>
      have slotUsed := full slot List.mem_cons_self
      have restFull : ∀ other ∈ rest, used other = true :=
        fun other among => full other (List.mem_cons_of_mem _ among)
      simp [put, slotUsed, inductionHypothesis restFull]

theorem entries_take_of_some
    (emptyUnused : used empty = false)
    (taken : (take used wanted empty table).1 = some entry) :
    used entry = true ∧ wanted entry = true ∧
      (entries used table).Perm
        (entry :: entries used (take used wanted empty table).2) := by
  induction table with
  | nil =>
      cases taken
  | cons slot rest inductionHypothesis =>
      simp only [take] at taken ⊢
      cases found : used slot && wanted slot with
      | true =>
          rw [found, if_pos rfl] at taken
          cases taken
          obtain ⟨slotUsed, slotWanted⟩ := Bool.and_eq_true_iff.mp found
          refine ⟨slotUsed, slotWanted, ?_⟩
          simp [entries, slotUsed, emptyUnused]
      | false =>
          rw [found, if_neg Bool.false_ne_true] at taken
          obtain ⟨entryUsed, entryWanted, others⟩ :=
            inductionHypothesis taken
          refine ⟨entryUsed, entryWanted, ?_⟩
          rw [if_neg Bool.false_ne_true]
          cases slotUsed : used slot with
          | true =>
              simp only [entries, List.filter_cons, slotUsed, if_true]
              exact (others.cons slot).trans (List.Perm.swap entry slot _)
          | false =>
              simpa only [entries, List.filter_cons, slotUsed,
                Bool.false_eq_true, if_false] using others

theorem take_of_none
    (nothing : (take used wanted empty table).1 = none) :
    (∀ slot ∈ entries used table, wanted slot = false) ∧
      (take used wanted empty table).2 = table := by
  induction table with
  | nil =>
      constructor
      · intro _ among
        cases among
      · rfl
  | cons slot rest inductionHypothesis =>
      simp only [take] at nothing ⊢
      cases found : used slot && wanted slot with
      | true =>
          rw [found, if_pos rfl] at nothing
          cases nothing
      | false =>
          rw [found, if_neg Bool.false_ne_true] at nothing
          obtain ⟨unwanted, same⟩ := inductionHypothesis nothing
          rw [if_neg Bool.false_ne_true, same]
          refine ⟨?_, rfl⟩
          intro other among
          rw [entries, List.mem_filter, List.mem_cons] at among
          obtain ⟨rfl | later, otherUsed⟩ := among
          · rw [otherUsed, Bool.true_and] at found
            exact found
          · exact unwanted other (List.mem_filter.mpr ⟨later, otherUsed⟩)

end Slots

end VibuxOS.Lib
