import VibuxOS.Files.Descriptors

namespace VibuxOS.Files

/-!
# Copies in chunks

A transfer that is larger than the buffer of the kernel is copied chunk by
chunk, until all of it is copied or a chunk is not mapped.
-/

/-- Every chunk of an amount is mapped at the address of the call. -/
def World.CopiesAll (world : World) (chunk amount : Nat) : Prop :=
  ∀ index,
    index * chunk < amount →
    world.copied (index * chunk) (min (amount - index * chunk) chunk) = true

section Chunks

variable
  {world : World}
  {chunk amount : Nat}

theorem chunksCopied_le
    (fuel : Nat)
    {done : Nat}
    (within : done ≤ amount) :
    chunksCopied world chunk amount fuel done ≤ amount := by
  induction fuel generalizing done with
  | zero =>
      exact within
  | succ fuel inductionHypothesis =>
      unfold chunksCopied
      split
      case isTrue more =>
        apply inductionHypothesis
        omega
      case isFalse =>
        exact within

theorem le_chunksCopied
    (fuel done : Nat) :
    done ≤ chunksCopied world chunk amount fuel done := by
  induction fuel generalizing done with
  | zero =>
      exact Nat.le_refl _
  | succ fuel inductionHypothesis =>
      unfold chunksCopied
      split
      case isTrue =>
        exact Nat.le_trans (Nat.le_add_right _ _) (inductionHypothesis _)
      case isFalse =>
        exact Nat.le_refl _

theorem chunksCopied_end
    (fuel : Nat) :
    chunksCopied world chunk amount fuel amount = amount :=
  Nat.le_antisymm (chunksCopied_le fuel (Nat.le_refl _)) (le_chunksCopied _ _)

/-- From a whole number of chunks on the loop ends where all are mapped. -/
theorem chunksCopied_from_iff
    (positive : 0 < chunk)
    (fuel first : Nat)
    (enough : amount ≤ first * chunk + fuel)
    (within : first * chunk ≤ amount) :
    chunksCopied world chunk amount fuel (first * chunk) = amount ↔
      ∀ index,
        first ≤ index →
        index * chunk < amount →
        world.copied (index * chunk) (min (amount - index * chunk) chunk) =
          true := by
  induction fuel generalizing first with
  | zero =>
      have all : amount = first * chunk := Nat.le_antisymm enough within
      constructor
      · intro _ index later more
        have := Nat.mul_le_mul_right chunk later
        omega
      · intro _
        exact all.symm
  | succ fuel inductionHypothesis =>
      unfold chunksCopied
      have successor : (first + 1) * chunk = first * chunk + chunk :=
        Nat.succ_mul _ _
      by_cases more : first * chunk < amount
      · by_cases copied :
            world.copied (first * chunk)
                (min (amount - first * chunk) chunk) =
              true
        · rw [if_pos ⟨more, copied⟩]
          have splits
              (mapped : Nat → Prop)
              (atFirst : mapped first) :
              (∀ index, first ≤ index → mapped index) ↔
                ∀ index, first + 1 ≤ index → mapped index := by
            constructor
            · intro holds index later
              exact holds index (by omega)
            · intro holds index later
              rcases Nat.eq_or_lt_of_le later with rfl | above
              · exact atFirst
              · exact holds index above
          rw [splits _ (fun _ => copied)]
          by_cases last : (first + 1) * chunk ≤ amount
          · rw [Nat.min_eq_right (by omega), ← successor]
            exact inductionHypothesis (first + 1) (by omega) last
          · rw [Nat.min_eq_left (by omega),
              Nat.add_sub_cancel' (Nat.le_of_lt more), chunksCopied_end]
            simp only [true_iff]
            intro index later inside
            have := Nat.mul_le_mul_right chunk later
            omega
        · rw [if_neg (fun both => copied both.2)]
          constructor
          · intro all
            omega
          · intro mapped
            exact (copied (mapped first (Nat.le_refl _) more)).elim
      · rw [if_neg (fun both => more both.1)]
        constructor
        · intro _ index later inside
          have := Nat.mul_le_mul_right chunk later
          omega
        · intro _
          omega

theorem chunksCopied_eq_amount_iff
    (positive : 0 < chunk) :
    chunksCopied world chunk amount amount 0 = amount ↔
      world.CopiesAll chunk amount := by
  have loop :=
    @chunksCopied_from_iff world chunk amount positive amount 0 (by omega)
      (by omega)
  rw [Nat.zero_mul] at loop
  rw [loop]
  exact
    ⟨fun mapped index => mapped index (Nat.zero_le _),
      fun mapped index _ => mapped index⟩

theorem chunksCopied_eq_zero_iff
    (positive : 0 < chunk)
    (something : 0 < amount) :
    chunksCopied world chunk amount amount 0 = 0 ↔
      world.copied 0 (min amount chunk) = false := by
  obtain ⟨fuel, rfl⟩ := Nat.exists_eq_succ_of_ne_zero (by omega : amount ≠ 0)
  unfold chunksCopied
  rw [Nat.sub_zero, Nat.zero_add]
  by_cases copied : world.copied 0 (min fuel.succ chunk) = true
  · rw [if_pos ⟨something, copied⟩]
    have grows :=
      @le_chunksCopied world chunk fuel.succ fuel (min fuel.succ chunk)
    constructor
    · intro nothing
      omega
    · intro unmapped
      rw [copied] at unmapped
      cases unmapped
  · rw [if_neg (fun both => copied both.2)]
    simpa using copied

end Chunks

end VibuxOS.Files
