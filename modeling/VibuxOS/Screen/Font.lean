import VibuxOS.Lib.Given
import VibuxOS.Lib.Usize

namespace VibuxOS.Screen

open VibuxOS.Lib
open VibuxOS.Lib.Usize

/-!
# The console font

The font file is staged by the build, so it is a parameter: a list of bytes.  Its
header gives 32-bit sizes or, in the older format, single bytes.  A glyph that the
file does not hold is empty, so no character faults.
-/

/-- What the header of a font says. -/
structure Font where
  offset : Nat
  glyphSize : Nat
  glyphCount : Nat
  width : Nat
  height : Nat
  deriving Repr, DecidableEq

/-- The little-endian word at an offset; an index out of range is a fault. -/
def readU32
    (data : List UInt8)
    (offset : Nat) :
    Option UInt32 := do
  let first ← data[offset]?
  let second ← data[offset + 1]?
  let third ← data[offset + 2]?
  let fourth ← data[offset + 3]?
  return first.toUInt32 |||
    (second.toUInt32 <<< 8) |||
    (third.toUInt32 <<< 16) |||
    (fourth.toUInt32 <<< 24)

namespace Font

/-- Read the header; a file of neither format is a panic. -/
def parse (data : List UInt8) : Option Font :=
  if 4 ≤ data.length ∧ data[0]? = some (0x36 : UInt8) ∧
      data[1]? = some (0x04 : UInt8) then do
    let mode : UInt8 ← data[2]?
    let glyphSize : UInt8 ← data[3]?
    return {
      offset := 4
      glyphSize := glyphSize.toNat
      glyphCount := if mode &&& 0x02 ≠ 0 then 512 else 256
      width := 8
      height := glyphSize.toNat
    }
  else if 32 ≤ data.length ∧ readU32 data 0 = some (0x864AB572 : UInt32) then do
    let offset ← readU32 data 8
    let glyphCount ← readU32 data 16
    let glyphSize ← readU32 data 20
    let width ← readU32 data 28
    let height ← readU32 data 24
    return {
      offset := offset.toNat
      glyphSize := glyphSize.toNat
      glyphCount := glyphCount.toNat
      width := width.toNat
      height := height.toNat
    }
  else
    none

def rowBytes (font : Font) : Nat :=
  saturatingAdd font.width 7 / 8

/-- `&data[start..stop]`; a range outside the data is a fault. -/
def slice
    (data : List UInt8)
    (start stop : Nat) :
    Option (List UInt8) :=
  if start ≤ stop ∧ stop ≤ data.length then
    some ((data.drop start).take (stop - start))
  else
    none

/-- The rows of a character's glyph, none of them if the file ends before it. -/
def glyph
    (font : Font)
    (data : List UInt8)
    (character : UInt8) :
    Option (List UInt8) :=
  let index :=
    if character.toNat < font.glyphCount then character.toNat else 0
  let start :=
    saturatingAdd font.offset (saturatingMul index font.glyphSize)
  let stop := saturatingAdd start font.glyphSize
  if data.length < stop then
    some []
  else
    slice data start stop

/-- Every size in a header is a 32-bit number. -/
theorem small_of_parse
    {data : List UInt8}
    {font : Font}
    (parsed : parse data = some font) :
    font.width < 2 ^ 32 ∧ font.height < 2 ^ 32 := by
  unfold parse at parsed
  split at parsed
  · simp only [Option.bind_eq_bind, Option.bind_eq_some_iff, Option.pure_def,
      Option.some.injEq] at parsed
    obtain ⟨_, -, glyphSize, -, rfl⟩ := parsed
    have isByte := glyphSize.toNat_lt
    constructor
    · show 8 < 2 ^ 32
      omega
    · show glyphSize.toNat < 2 ^ 32
      omega
  · split at parsed
    · simp only [Option.bind_eq_bind, Option.bind_eq_some_iff,
        Option.pure_def, Option.some.injEq] at parsed
      obtain ⟨_, -, _, -, _, -, width, -, height, -, rfl⟩ := parsed
      exact ⟨width.toNat_lt, height.toNat_lt⟩
    · cases parsed

theorem slice_given
    {data : List UInt8}
    {start stop : Nat}
    (ordered : start ≤ stop)
    (inside : stop ≤ data.length) :
    Gives (slice data start stop) fun _ => True :=
  Gives.of_eq (if_pos ⟨ordered, inside⟩) trivial

theorem glyph_given
    {font : Font}
    {data : List UInt8}
    {character : UInt8} :
    Gives (font.glyph data character) fun _ => True := by
  unfold glyph
  apply Gives.ite
  · intro _
    exact Gives.some trivial
  · intro inFile
    apply slice_given _ (Nat.le_of_not_lt inFile)
    exact left_le_saturatingAdd _ (saturatingAdd_small _ _)

end Font

end VibuxOS.Screen
