import Mathlib.Algebra.Group.Nat.Defs
import Mathlib.Data.List.Basic
import Mathlib.Tactic.Common

namespace VibuxOS.Lib.ReflectedCrc

/-!
# Reflected cyclic redundancy checks

A reflected check divides a message by a polynomial, bit by bit, with the lowest bit
of the state as the next one to go.  A step is linear over exclusive or.  So the
steps of a whole chunk can be looked up: the low bits of the state decide what is
added, and the other bits only move down.
-/

variable {w : Nat} (polynomial : BitVec w)

/-- One step without a bit of the message. -/
def shift (state : BitVec w) : BitVec w :=
  if state.getLsbD 0 then
    (state >>> 1) ^^^ polynomial
  else
    state >>> 1

/-- One step with a bit of the message. -/
def feed (state : BitVec w) (bit : Bool) : BitVec w :=
  if state.getLsbD 0 != bit then
    (state >>> 1) ^^^ polynomial
  else
    state >>> 1

/-- Several steps without bits of the message. -/
def shifts : Nat → BitVec w → BitVec w
  | 0, state => state
  | count + 1, state => shifts count (shift polynomial state)

/-- The word with some bits, the first one lowest. -/
def ofBits : List Bool → BitVec w
  | [] => 0#w
  | bit :: rest => (BitVec.ofBool bit).setWidth w ^^^ (ofBits rest <<< 1)

/-! ## Bits of a word -/

theorem getLsbD_ofBits
    (bits : List Bool)
    {index : Nat}
    (inWord : index < w) :
    (ofBits bits : BitVec w).getLsbD index = bits.getD index false := by
  induction bits generalizing index with
  | nil =>
      simp [ofBits]
  | cons bit rest inductionHypothesis =>
      cases index with
      | zero =>
          simp [ofBits, inWord]
      | succ index =>
          have below : index < w := by omega
          rw [ofBits, BitVec.getLsbD_xor, BitVec.getLsbD_shiftLeft,
            Nat.add_sub_cancel, inductionHypothesis below]
          simp [inWord]

theorem ofBits_shiftLeft_shiftRight
    {bits : List Bool}
    (short : bits.length < w) :
    (ofBits bits : BitVec w) <<< 1 >>> 1 = ofBits bits := by
  apply BitVec.eq_of_getLsbD_eq
  intro index inWord
  simp only [BitVec.getLsbD_ushiftRight, BitVec.getLsbD_shiftLeft]
  by_cases isLast : 1 + index < w
  · simp [isLast]
  · have beyond : bits[index]? = none :=
      List.getElem?_eq_none (by omega)
    rw [getLsbD_ofBits bits inWord, List.getD_eq_getElem?_getD, beyond]
    simp [isLast]

/-! ## Steps are linear -/

theorem xor_xor_cancel (left right added : BitVec w) :
    (left ^^^ added) ^^^ (right ^^^ added) = left ^^^ right := by
  rw [BitVec.xor_comm right, BitVec.xor_assoc, ← BitVec.xor_assoc added,
    BitVec.xor_self, BitVec.zero_xor]

theorem shift_xor (left right : BitVec w) :
    shift polynomial (left ^^^ right) =
      shift polynomial left ^^^ shift polynomial right := by
  unfold shift
  rw [BitVec.getLsbD_xor, BitVec.ushiftRight_xor_distrib]
  cases leftBit : left.getLsbD 0 with
  | false =>
      cases rightBit : right.getLsbD 0 with
      | false =>
          rfl
      | true =>
          exact BitVec.xor_assoc _ _ _
  | true =>
      cases rightBit : right.getLsbD 0 with
      | false =>
          show left >>> 1 ^^^ right >>> 1 ^^^ polynomial =
            left >>> 1 ^^^ polynomial ^^^ right >>> 1
          rw [BitVec.xor_assoc, BitVec.xor_comm (right >>> 1),
            BitVec.xor_assoc]
      | true =>
          exact (xor_xor_cancel _ _ _).symm

theorem shifts_xor (count : Nat) (left right : BitVec w) :
    shifts polynomial count (left ^^^ right) =
      shifts polynomial count left ^^^ shifts polynomial count right := by
  induction count generalizing left right with
  | zero =>
      rfl
  | succ count inductionHypothesis =>
      rw [shifts, shift_xor, inductionHypothesis]
      rfl

theorem feed_eq_shift
    (positive : 0 < w)
    (state : BitVec w)
    (bit : Bool) :
    feed polynomial state bit =
      shift polynomial (state ^^^ (BitVec.ofBool bit).setWidth w) := by
  have lowest :
      ((BitVec.ofBool bit).setWidth w).getLsbD 0 = bit := by
    simp [positive]
  have gone : ((BitVec.ofBool bit).setWidth w) >>> 1 = 0#w := by
    apply BitVec.eq_of_getLsbD_eq
    intro index _
    simp [BitVec.getLsbD_ushiftRight]
  unfold feed shift
  rw [BitVec.getLsbD_xor, lowest, BitVec.ushiftRight_xor_distrib, gone,
    BitVec.xor_zero]

/-! ## A chunk at a time -/

/-- Bits that fit into the word can be added all at once. -/
theorem foldl_feed
    {bits : List Bool}
    (short : bits.length ≤ w)
    (state : BitVec w) :
    bits.foldl (feed polynomial) state =
      shifts polynomial bits.length (state ^^^ ofBits bits) := by
  induction bits generalizing state with
  | nil =>
      simp [shifts, ofBits]
  | cons bit rest inductionHypothesis =>
      rw [List.length_cons] at short
      have positive : 0 < w := by omega
      have moved :
          shift polynomial ((ofBits rest : BitVec w) <<< 1) =
            ofBits rest := by
        have lowest :
            ((ofBits rest : BitVec w) <<< 1).getLsbD 0 = false := by
          simp
        unfold shift
        rw [lowest, if_neg Bool.false_ne_true,
          ofBits_shiftLeft_shiftRight short]
      calc (bit :: rest).foldl (feed polynomial) state
          = shifts polynomial rest.length
              (feed polynomial state bit ^^^ ofBits rest) :=
            inductionHypothesis (Nat.le_of_succ_le short) _
        _ = shifts polynomial rest.length
              (shift polynomial
                (state ^^^ (BitVec.ofBool bit).setWidth w ^^^
                  (ofBits rest <<< 1))) := by
            rw [feed_eq_shift polynomial positive,
              shift_xor polynomial (state ^^^ _) (ofBits rest <<< 1), moved]
        _ = shifts polynomial (bit :: rest).length
              (state ^^^ ofBits (bit :: rest)) := by
            rw [BitVec.xor_assoc]
            rfl

theorem shifts_of_low_zero
    {count : Nat}
    {state : BitVec w}
    (low : ∀ index < count, state.getLsbD index = false) :
    shifts polynomial count state = state >>> count := by
  induction count generalizing state with
  | zero =>
      exact (BitVec.ushiftRight_zero state).symm
  | succ count inductionHypothesis =>
      have lowest : state.getLsbD 0 = false := low 0 (Nat.succ_pos _)
      have moved : shift polynomial state = state >>> 1 := by
        unfold shift
        rw [lowest, if_neg Bool.false_ne_true]
      rw [shifts, moved, inductionHypothesis]
      · rw [← BitVec.shiftRight_add, Nat.add_comm]
      · intro index below
        rw [BitVec.getLsbD_ushiftRight]
        exact low _ (by omega)

theorem shifts_eq_lookup
    (count : Nat)
    (state : BitVec w) :
    shifts polynomial count state =
      (state >>> count) ^^^
        shifts polynomial count
          (state &&& BitVec.ofNat w (2 ^ count - 1)) := by
  have mask :
      ∀ index, (BitVec.ofNat w (2 ^ count - 1)).getLsbD index =
        (decide (index < w) && decide (index < count)) := by
    intro index
    rw [BitVec.getLsbD_ofNat, Nat.testBit_two_pow_sub_one]
  have parts :
      state =
        (state &&& ~~~BitVec.ofNat w (2 ^ count - 1)) ^^^
          (state &&& BitVec.ofNat w (2 ^ count - 1)) := by
    apply BitVec.eq_of_getLsbD_eq
    intro index inWord
    rw [BitVec.getLsbD_xor, BitVec.getLsbD_and, BitVec.getLsbD_and,
      BitVec.getLsbD_not]
    cases state.getLsbD index <;>
      cases (BitVec.ofNat w (2 ^ count - 1)).getLsbD index <;>
        simp [inWord]
  have high :
      (state &&& ~~~BitVec.ofNat w (2 ^ count - 1)) >>> count =
        state >>> count := by
    apply BitVec.eq_of_getLsbD_eq
    intro index _
    rw [BitVec.getLsbD_ushiftRight, BitVec.getLsbD_ushiftRight,
      BitVec.getLsbD_and, BitVec.getLsbD_not, mask]
    by_cases inWord : count + index < w
    · simp [inWord]
    · simp [BitVec.getLsbD_of_ge state _ (Nat.le_of_not_lt inWord)]
  calc shifts polynomial count state
      = shifts polynomial count
            (state &&& ~~~BitVec.ofNat w (2 ^ count - 1)) ^^^
          shifts polynomial count
            (state &&& BitVec.ofNat w (2 ^ count - 1)) := by
        rw [← shifts_xor, ← parts]
    _ = _ := by
        rw [shifts_of_low_zero, high]
        intro index below
        rw [BitVec.getLsbD_and, BitVec.getLsbD_not, mask]
        simp [below]

end VibuxOS.Lib.ReflectedCrc
