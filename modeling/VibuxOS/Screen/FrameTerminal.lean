import Mathlib.Logic.Function.Basic
import VibuxOS.Screen.Font

namespace VibuxOS.Screen

open VibuxOS.Lib
open VibuxOS.Lib.Usize

/-!
# The framebuffer terminal

What a terminal never changes (the framebuffer's sizes, the font) is a `Frame`; what
it changes is a `FrameTerminal`.  Every operation gives the next state, or none where
the code would fault: an index out of range, a plain operator that overflows, a byte
written outside the framebuffer.
-/

/-- How a pixel is stored. -/
inductive PixelFormat where
  | rgb
  | bgr
  | u8
  | unknown
  deriving Repr, DecidableEq

/-- The sizes that the bootloader reports. -/
structure FrameBufferInfo where
  width : Nat
  height : Nat
  stride : Nat
  bytesPerPixel : Nat
  pixelFormat : PixelFormat
  width_le : width ≤ usizeMax
  height_le : height ≤ usizeMax

/-- The fixed part of a terminal; no slice is longer than `isize::MAX`. -/
structure Frame where
  info : FrameBufferInfo
  bufferLen : Nat
  fontData : List UInt8
  font : Font
  parsed : Font.parse fontData = some font
  bufferLen_lt : bufferLen < 2 ^ 63

/-- The part of a terminal that changes, with the bytes sent to the serial port. -/
structure FrameTerminal where
  buffer : Nat → UInt8
  x : Nat
  y : Nat
  mirrorSerial : Bool
  ansiState : Nat
  csiParams : Vector Nat 8
  csiCount : Nat
  csiValue : Nat
  csiHaveValue : Bool
  csiPrivate : Bool
  savedX : Nat
  savedY : Nat
  serial : List UInt8

namespace Frame

variable (frame : Frame)

def cellW : Nat := frame.font.width + 1

def cellH : Nat := frame.font.height + 1

/-- The number of columns. -/
def columns : Nat := max (frame.info.width / frame.cellW) 1

/-- The number of rows. -/
def rows : Nat := max (frame.info.height / frame.cellH) 1

/-- Where the pixel at `x` and `y` starts in the buffer. -/
def pixelOffset (x y : Nat) : Nat :=
  saturatingAdd
    (saturatingMul (saturatingMul y frame.info.stride) frame.info.bytesPerPixel)
    (saturatingMul x frame.info.bytesPerPixel)

end Frame

namespace FrameTerminal

variable (frame : Frame)

/-! ## Bytes of the framebuffer -/

/-- Store one byte. -/
def writeAt
    (terminal : FrameTerminal)
    (offset : Nat)
    (value : UInt8) :
    Option FrameTerminal :=
  if offset < frame.bufferLen then
    some { terminal with
      buffer := Function.update terminal.buffer offset value }
  else
    none

/-- Store one byte after the other. -/
def writeBytesAt
    (terminal : FrameTerminal)
    (offset : Nat) :
    List UInt8 → Option FrameTerminal
  | [] => some terminal
  | value :: rest => do
      let terminal ← writeAt frame terminal offset value
      writeBytesAt terminal (offset + 1) rest

/-- Fill a range with zeros. -/
def writeZeros
    (terminal : FrameTerminal)
    (offset count : Nat) :
    Option FrameTerminal :=
  if offset + count ≤ frame.bufferLen then
    some { terminal with
      buffer := fun index =>
        if offset ≤ index ∧ index < offset + count then
          0
        else
          terminal.buffer index }
  else
    none

/-- `buffer.copy_within(start..stop, target)`. -/
def copyWithin
    (terminal : FrameTerminal)
    (start stop target : Nat) :
    Option FrameTerminal :=
  if start ≤ stop ∧ stop ≤ frame.bufferLen ∧
      target + (stop - start) ≤ frame.bufferLen then
    some { terminal with
      buffer := fun index =>
        if target ≤ index ∧ index < target + (stop - start) then
          terminal.buffer (start + (index - target))
        else
          terminal.buffer index }
  else
    none

/-! ## Drawing -/

/-- Blank the screen and go home; the saved cursor stays. -/
def clear (terminal : FrameTerminal) : Option FrameTerminal := do
  let terminal ← writeZeros frame terminal 0 frame.bufferLen
  return { terminal with
    x := 0
    y := 0
    ansiState := 0
    csiParams := Vector.replicate 8 0
    csiCount := 0
    csiValue := 0
    csiHaveValue := false
    csiPrivate := false }

/-- Blank one cell, row by row until the buffer ends. -/
def clearCell
    (terminal : FrameTerminal)
    (x y : Nat) :
    Option FrameTerminal :=
  if frame.info.width ≤ x ∨ frame.info.height ≤ y ∨
      frame.info.bytesPerPixel = 0 then
    some terminal
  else do
    let endX := min (saturatingAdd x frame.cellW) frame.info.width
    let endY := min (saturatingAdd y frame.cellH) frame.info.height
    let width ← plainSub endX x
    let rowBytes := saturatingMul width frame.info.bytesPerPixel
    foldUntil
      (fun py =>
        frame.bufferLen < saturatingAdd (frame.pixelOffset x py) rowBytes)
      (fun terminal py =>
        writeZeros frame terminal (frame.pixelOffset x py) rowBytes)
      (List.range' y (endY - y))
      terminal

/-- The foreground colour. -/
def foreground : UInt8 × UInt8 × UInt8 := (190, 230, 160)

/-- The foreground colour as a shade of gray. -/
def gray : UInt8 :=
  let (r, g, b) := foreground
  (r.toUInt16 * 77 + g.toUInt16 * 150 + b.toUInt16 * 29).toUInt8

/-- The bytes of a lit pixel, for the formats that the code knows. -/
def pixelBytes : PixelFormat → Option (List UInt8)
  | .rgb =>
      let (r, g, b) := foreground
      some [r, g, b]
  | .bgr =>
      let (r, g, b) := foreground
      some [b, g, r]
  | .u8 => some [gray]
  | .unknown => none

/-- Is this pixel of a glyph lit?  A row that the glyph lacks is dark. -/
def lit
    (glyph : List UInt8)
    (index col : Nat) :
    Option Bool :=
  if index < glyph.length then do
    let bits : UInt8 ← glyph[index]?
    return bits &&& ((0x80 : UInt8) >>> UInt8.ofNat (col &&& 7)) != 0
  else
    some false

/-- One pixel of a row that starts at `offset`. -/
def drawPixel
    (glyph pixel : List UInt8)
    (base offset : Nat)
    (terminal : FrameTerminal)
    (col : Nat) :
    Option FrameTerminal := do
  let index ← plainAdd base (col / 8)
  if ← lit glyph index col then
    let inRow ← plainMul col frame.info.bytesPerPixel
    writeBytesAt frame terminal (offset + inRow) pixel
  else
    return terminal

/-- One row of a glyph. -/
def drawRow
    (glyph pixel : List UInt8)
    (x y maxW : Nat)
    (terminal : FrameTerminal)
    (row : Nat) :
    Option FrameTerminal :=
  (List.range maxW).foldlM
    (drawPixel frame glyph pixel
      (saturatingMul row frame.font.rowBytes)
      (frame.pixelOffset x (saturatingAdd y row)))
    terminal

/-- Draw a character; the formats differ in the bytes of a pixel only. -/
def drawGlyph
    (terminal : FrameTerminal)
    (character : UInt8)
    (x y : Nat) :
    Option FrameTerminal := do
  let glyph ← frame.font.glyph frame.fontData character
  if frame.info.bytesPerPixel < 3 ∨ frame.info.width ≤ x ∨
      frame.info.height ≤ y then
    return terminal
  else
    let restX ← plainSub frame.info.width x
    let restY ← plainSub frame.info.height y
    let maxW := min frame.font.width restX
    let maxH := min frame.font.height restY
    match pixelBytes frame.info.pixelFormat with
    | none => return terminal
    | some pixel =>
        foldUntil
          (fun row =>
            frame.bufferLen <
              saturatingAdd (frame.pixelOffset x (saturatingAdd y row))
                (saturatingMul maxW frame.info.bytesPerPixel))
          (drawRow frame glyph pixel x y maxW)
          (List.range maxH)
          terminal

end FrameTerminal

end VibuxOS.Screen
