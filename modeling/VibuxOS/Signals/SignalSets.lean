import VibuxOS.Signals.Delivery

namespace VibuxOS.Signals

open VibuxOS.Lib

/-!
# Sets of signals

A word holds a set of the signals 1 to 64: signal `n` has the bit `n - 1`.
Adding and removing a signal change its own bit only.
-/

/-- A number for which `raise_signal` sets a bit. -/
def IsSignal (signum : UInt64) : Prop :=
  ¬ (signum = 0 ∨ signum > 64)

instance (signum : UInt64) : Decidable (IsSignal signum) :=
  inferInstanceAs (Decidable (¬ _))

def Has (set signum : UInt64) : Prop :=
  set &&& signalBit signum ≠ 0

instance (set signum : UInt64) : Decidable (Has set signum) :=
  inferInstanceAs (Decidable (_ ≠ _))

theorem toNat_signalBit
    {index : Nat}
    (inWord : index < 64) :
    (signalBit (UInt64.ofNat index + 1)).toNat = 2 ^ index := by
  have back : UInt64.ofNat index + 1 - 1 = UInt64.ofNat index :=
    UInt64.add_sub_cancel _ _
  have small : index % 2 ^ 64 % 64 = index := by
    omega
  have fits : 2 ^ index < 2 ^ 64 := Nat.pow_lt_pow_right (by decide) inWord
  unfold signalBit
  rw [back, UInt64.toNat_shiftLeft, UInt64.toNat_ofNat', small,
    UInt64.toNat_one, Nat.one_shiftLeft, Nat.mod_eq_of_lt fits]

theorem lowestSignal_eq_none
    {set : UInt64} :
    lowestSignal set = none ↔ set = 0 := by
  unfold lowestSignal
  rw [List.find?_eq_none]
  constructor
  · intro missing
    rw [← UInt64.toNat_inj, UInt64.toNat_zero]
    apply Nat.zero_of_testBit_eq_false
    intro position
    by_cases inWord : position < 64
    · have absent :=
        missing (UInt64.ofNat position + 1)
          (List.mem_map.mpr ⟨position, List.mem_range.mpr inWord, rfl⟩)
      rw [bne_iff_ne, not_not, ← UInt64.toNat_inj, UInt64.toNat_and,
        toNat_signalBit inWord, UInt64.toNat_zero, Nat.and_two_pow] at absent
      cases bit : set.toNat.testBit position with
      | false =>
          rfl
      | true =>
          rw [bit, Bool.toNat_true, Nat.one_mul] at absent
          exact absurd absent (Nat.two_pow_pos position).ne'
    · apply Nat.testBit_lt_two_pow
      have fits : 2 ^ 64 ≤ 2 ^ position :=
        Nat.pow_le_pow_right (by decide) (Nat.le_of_not_lt inWord)
      exact Nat.lt_of_lt_of_le set.toNat_lt fits
  · rintro rfl signum _
    rw [UInt64.zero_and]
    decide

theorem lowestSignal_mem
    {set signum : UInt64}
    (lowest : lowestSignal set = some signum) :
    set &&& signalBit signum ≠ 0 := by
  have found := List.find?_some lowest
  rwa [bne_iff_ne] at found

theorem IsSignal.index
    {signum : UInt64}
    (isSignal : IsSignal signum) :
    ∃ index < 64, signum = UInt64.ofNat index + 1 := by
  obtain ⟨notZero, small⟩ := not_or.mp isSignal
  rw [gt_iff_lt, UInt64.not_lt, UInt64.le_iff_toNat_le] at small
  have positive : signum.toNat ≠ 0 :=
    fun zero => notZero (UInt64.toNat_inj.mp zero)
  have bound : signum.toNat ≤ 64 := small
  refine ⟨signum.toNat - 1, by omega, ?_⟩
  apply UInt64.toNat_inj.mp
  rw [UInt64.toNat_add, UInt64.toNat_ofNat', UInt64.toNat_one]
  omega

theorem has_iff_testBit
    {set : UInt64}
    {index : Nat}
    (inWord : index < 64) :
    Has set (UInt64.ofNat index + 1) ↔ set.toNat.testBit index = true := by
  unfold Has
  rw [Ne, ← UInt64.toNat_inj, UInt64.toNat_and, toNat_signalBit inWord,
    UInt64.toNat_zero, Nat.and_two_pow]
  have positive := Nat.two_pow_pos index
  cases set.toNat.testBit index with
  | false =>
      simp
  | true =>
      simp

theorem ofNat_succ_inj
    {first second : Nat}
    (firstInWord : first < 64)
    (secondInWord : second < 64) :
    UInt64.ofNat first + 1 = UInt64.ofNat second + 1 ↔ first = second := by
  constructor
  · intro same
    have numbers := congrArg UInt64.toNat same
    rw [UInt64.toNat_add, UInt64.toNat_add, UInt64.toNat_ofNat',
      UInt64.toNat_ofNat', UInt64.toNat_one] at numbers
    omega
  · rintro rfl
    rfl

theorem not_has_zero
    (signum : UInt64) :
    ¬ Has 0 signum := by
  unfold Has
  rw [UInt64.zero_and, not_not]

theorem has_or_signalBit
    {set raised signum : UInt64}
    (isRaised : IsSignal raised)
    (isSignal : IsSignal signum) :
    Has (set ||| signalBit raised) signum ↔
      raised = signum ∨ Has set signum := by
  obtain ⟨first, firstInWord, rfl⟩ := isRaised.index
  obtain ⟨second, secondInWord, rfl⟩ := isSignal.index
  rw [has_iff_testBit secondInWord, has_iff_testBit secondInWord,
    ofNat_succ_inj firstInWord secondInWord, UInt64.toNat_or,
    toNat_signalBit firstInWord, Nat.testBit_or, Nat.testBit_two_pow,
    Bool.or_eq_true, decide_eq_true_eq]
  exact or_comm

theorem has_and_not_signalBit
    {set cleared signum : UInt64}
    (isCleared : IsSignal cleared)
    (isSignal : IsSignal signum) :
    Has (set &&& ~~~signalBit cleared) signum ↔
      cleared ≠ signum ∧ Has set signum := by
  unfold Has
  by_cases same : cleared = signum
  · subst same
    rw [and_not_and]
    exact ⟨fun absent => absurd rfl absent, fun both => absurd rfl both.1⟩
  · have apart : signalBit cleared &&& signalBit signum = 0 := by
      obtain ⟨first, firstInWord, rfl⟩ := isCleared.index
      obtain ⟨second, secondInWord, rfl⟩ := isSignal.index
      rw [ofNat_succ_inj firstInWord secondInWord] at same
      rw [← UInt64.toNat_inj, UInt64.toNat_and, toNat_signalBit firstInWord,
        toNat_signalBit secondInWord, Nat.and_two_pow, Nat.testBit_two_pow]
      simp [same]
    rw [UInt64.and_assoc, not_and_of_disjoint apart]
    exact ⟨fun present => ⟨same, present⟩, fun both => both.2⟩

theorem isSignal_lowestSignal
    {set signum : UInt64}
    (lowest : lowestSignal set = some signum) :
    IsSignal signum := by
  obtain ⟨index, inWord, rfl⟩ :=
    List.mem_map.mp (List.mem_of_find?_eq_some lowest)
  rw [List.mem_range] at inWord
  have number : (UInt64.ofNat index + 1).toNat = index + 1 := by
    rw [UInt64.toNat_add, UInt64.toNat_ofNat', UInt64.toNat_one]
    omega
  rintro (zero | large)
  · rw [zero, UInt64.toNat_zero] at number
    omega
  · rw [gt_iff_lt, UInt64.lt_iff_toNat_lt, number] at large
    have bound : (64 : UInt64).toNat = 64 := rfl
    omega

end VibuxOS.Signals
