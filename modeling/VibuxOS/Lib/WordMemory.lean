import VibuxOS.Lib.Record

namespace VibuxOS.Lib

/-!
# Words in byte memory

A word of 32 bits is written to and read from four bytes of a buffer.  What is
read depends on these bytes only, so a write elsewhere does not show.
-/

/-- Write a word of 32 bits, the lowest byte first. -/
def putWord
    (bytes : Nat → UInt8)
    (offset : Nat)
    (value : UInt32) :
    Nat → UInt8 :=
  blit bytes offset (leByte value.toUInt64) 4

/-- The word of 32 bits in the four bytes at an offset. -/
def wordAt (bytes : Nat → UInt8) (offset : Nat) : UInt32 :=
  UInt32.ofNat (leValue (fun index => bytes (offset + index)) 4)

theorem wordAt_congr
    {left right : Nat → UInt8}
    {offset : Nat}
    (same : ∀ index < 4, left (offset + index) = right (offset + index)) :
    wordAt left offset = wordAt right offset := by
  unfold wordAt
  rw [leValue_congr same]

@[simp] theorem wordAt_putWord
    (bytes : Nat → UInt8)
    (offset : Nat)
    (value : UInt32) :
    wordAt (putWord bytes offset value) offset = value := by
  have written :
      ∀ index < 4,
        putWord bytes offset value (offset + index) =
          leByte value.toUInt64 index := by
    intro index inside
    rw [putWord, blit_inside (Nat.le_add_right _ _) (by omega),
      Nat.add_sub_cancel_left]
  have small : value.toUInt64.toNat < 256 ^ 4 := by
    rw [UInt32.toNat_toUInt64]
    exact value.toNat_lt
  unfold wordAt
  rw [leValue_congr written, leValue_leByte, Nat.mod_eq_of_lt small,
    UInt32.toNat_toUInt64, UInt32.ofNat_toNat]

theorem wordAt_blit
    {bytes source : Nat → UInt8}
    {start length offset : Nat}
    (apart : offset + 4 ≤ start ∨ start + length ≤ offset) :
    wordAt (blit bytes start source length) offset = wordAt bytes offset := by
  apply wordAt_congr
  intro index inside
  exact blit_outside (by omega)

theorem wordAt_putWord_apart
    {bytes : Nat → UInt8}
    {start offset : Nat}
    {value : UInt32}
    (apart : offset + 4 ≤ start ∨ start + 4 ≤ offset) :
    wordAt (putWord bytes start value) offset = wordAt bytes offset :=
  wordAt_blit apart

theorem wordAt_cleared
    {bytes : Nat → UInt8}
    {start length offset : Nat}
    (behind : start ≤ offset)
    (before : offset + 4 ≤ start + length) :
    wordAt (blit bytes start (fun _ => 0) length) offset = 0 := by
  have cleared :
      ∀ index < 4,
        blit bytes start (fun _ => 0) length (offset + index) =
          (fun _ => (0 : UInt8)) index := by
    intro index inside
    exact blit_inside (by omega) (by omega)
  unfold wordAt
  rw [leValue_congr cleared]
  rfl

end VibuxOS.Lib
