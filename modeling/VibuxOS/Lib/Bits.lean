import Mathlib.Data.Nat.Bitwise
import Mathlib.Tactic.Common
import Mathlib.Tactic.IntervalCases

namespace VibuxOS.Lib

/-!
# Single bits of a byte

A byte is tested, set and cleared at a position by masks `1 <<< position`.
The lemmas say what a test sees after a set or a clear.
-/

theorem mask_toNat
    {position : Nat}
    (inByte : position < 8) :
    ((1 : UInt8) <<< UInt8.ofNat position).toNat = 2 ^ position := by
  interval_cases position <;> rfl

theorem getLsbD_mask
    {position other : Nat}
    (inByte : position < 8) :
    ((1 : UInt8) <<< UInt8.ofNat position).toBitVec.getLsbD other =
      decide (position = other) := by
  have asNat :
      ((1 : UInt8) <<< UInt8.ofNat position).toBitVec.toNat =
        2 ^ position :=
    mask_toNat inByte
  rw [BitVec.getLsbD, asNat, Nat.testBit_two_pow]

theorem and_mask_bne_zero
    (byte : UInt8)
    {position : Nat}
    (inByte : position < 8) :
    (byte &&& (1 <<< UInt8.ofNat position) != 0) =
      byte.toBitVec.getLsbD position := by
  have asNat :
      byte.toBitVec.getLsbD position = byte.toNat.testBit position :=
    rfl
  rw [asNat, Bool.eq_iff_iff]
  simp only [bne_iff_ne, ne_eq, ← UInt8.toNat_inj, UInt8.toNat_and,
    mask_toNat inByte, UInt8.toNat_zero, Nat.and_two_pow]
  cases byte.toNat.testBit position <;> simp

theorem test_or_mask
    (byte : UInt8)
    {position other : Nat}
    (inByte : position < 8)
    (otherInByte : other < 8) :
    ((byte ||| 1 <<< UInt8.ofNat position) &&&
        (1 <<< UInt8.ofNat other) != 0) =
      ((byte &&& (1 <<< UInt8.ofNat other) != 0) ||
        decide (position = other)) := by
  rw [and_mask_bne_zero _ otherInByte, and_mask_bne_zero _ otherInByte,
    UInt8.toBitVec_or, BitVec.getLsbD_or, getLsbD_mask inByte]

theorem test_and_not_mask
    (byte : UInt8)
    {position other : Nat}
    (inByte : position < 8)
    (otherInByte : other < 8) :
    ((byte &&& ~~~(1 <<< UInt8.ofNat position)) &&&
        (1 <<< UInt8.ofNat other) != 0) =
      ((byte &&& (1 <<< UInt8.ofNat other) != 0) &&
        !decide (position = other)) := by
  rw [and_mask_bne_zero _ otherInByte, and_mask_bne_zero _ otherInByte,
    UInt8.toBitVec_and, BitVec.getLsbD_and, UInt8.toBitVec_not,
    BitVec.getLsbD_not, getLsbD_mask inByte]
  simp [otherInByte]

end VibuxOS.Lib
