import VibuxOS.Paging.FrameBytes

namespace VibuxOS.Paging

open VibuxOS.Lib

/-!
# Writes at physical addresses

The kernel also writes through the direct map, where the frames lie one behind
the other: bytes that do not fit in their frame go on in the next one, whatever
that is.
-/

/-- The byte of a frame at an offset after a write at a physical address. -/
def writtenByte
    (memory : Memory)
    (address : Nat)
    (bytes : List UInt8)
    (frame : UInt64)
    (offset : Nat) :
    UInt8 :=
  if frame.toNat % 4096 = 0 ∧ offset < 4096 ∧
      address ≤ frame.toNat + offset ∧
      frame.toNat + offset < address + bytes.length then
    bytes.getD (frame.toNat + offset - address) 0
  else
    frameByte memory frame offset

/-- A write of some bytes at a physical address. -/
def writePhysical
    (memory : Memory)
    (address : Nat)
    (bytes : List UInt8) :
    Memory :=
  fun slot => getU64 (writtenByte memory address bytes slot.frame) (8 * slot.index)

variable {memory : Memory} {address : Nat} {bytes : List UInt8} {frame : UInt64}

theorem frameByte_writePhysical
    (memory : Memory)
    (address : Nat)
    (bytes : List UInt8)
    (frame : UInt64)
    (offset : Nat) :
    frameByte (writePhysical memory address bytes) frame offset =
      writtenByte memory address bytes frame offset := by
  have inWord : offset % 8 < 8 := Nat.mod_lt _ (by decide)
  rw [frameByte, writePhysical, leByte_getU64 _ _ inWord, Nat.div_add_mod]

theorem writtenByte_inside
    {offset place : Nat}
    (aligned : frame.toNat % 4096 = 0)
    (inFrame : offset < 4096)
    (isPlace : frame.toNat + offset = address + place)
    (inside : place < bytes.length) :
    writtenByte memory address bytes frame offset = bytes.getD place 0 := by
  unfold writtenByte
  rw [if_pos ⟨aligned, inFrame, by omega, by omega⟩, isPlace,
    Nat.add_sub_cancel_left]

theorem writtenByte_outside
    {offset : Nat}
    (outside :
      frame.toNat % 4096 = 0 →
      offset < 4096 →
      frame.toNat + offset < address ∨
        address + bytes.length ≤ frame.toNat + offset) :
    writtenByte memory address bytes frame offset =
      frameByte memory frame offset := by
  unfold writtenByte
  rw [if_neg]
  rintro ⟨aligned, inFrame, above, below⟩
  rcases outside aligned inFrame with isBelow | isAbove
  · exact Nat.not_le_of_lt isBelow above
  · exact Nat.not_le_of_lt below isAbove

theorem getU64_frameByte (memory : Memory) (slot : TableSlot) :
    getU64 (frameByte memory slot.frame) (8 * slot.index) = memory slot := by
  apply getU64_of_leByte
  intro index inside
  have quotient : (8 * slot.index + index) / 8 = slot.index := by
    omega
  have remainder : (8 * slot.index + index) % 8 = index := by
    omega
  rw [frameByte, quotient, remainder]

theorem writePhysical_outside
    {slot : TableSlot}
    (outside :
      slot.frame.toNat % 4096 = 0 →
      ∀ offset,
        offset < 4096 →
        slot.frame.toNat + offset < address ∨
          address + bytes.length ≤ slot.frame.toNat + offset) :
    writePhysical memory address bytes slot = memory slot := by
  rw [writePhysical, ← getU64_frameByte memory slot]
  apply getU64_congr
  intro index _
  exact writtenByte_outside fun aligned inFrame => outside aligned _ inFrame

theorem writePhysical_append
    (memory : Memory)
    (address : Nat)
    (first second : List UInt8) :
    writePhysical (writePhysical memory address first)
        (address + first.length) second =
      writePhysical memory address (first ++ second) := by
  funext slot
  unfold writePhysical
  apply getU64_congr
  intro index _
  change writtenByte (writePhysical memory address first) _ _ _ _ = _
  unfold writtenByte
  rw [frameByte_writePhysical, List.length_append]
  unfold writtenByte
  grind

end VibuxOS.Paging
