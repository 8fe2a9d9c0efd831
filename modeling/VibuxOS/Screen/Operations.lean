import VibuxOS.Screen.FrameTerminal

namespace VibuxOS.Screen

open VibuxOS.Lib
open VibuxOS.Lib.Usize

/-!
# Characters, escape sequences and the terminal's operations

`put_char` wraps at the right edge, scrolls at the bottom and advances the cursor;
`write_bytes` runs its bytes through the escape-sequence state machine, and
`finish_csi` obeys a complete sequence.
-/

namespace FrameTerminal

variable (frame : Frame)

/-! ## Moving over the screen -/

/-- Move the rows up by one; a screen of one row is cleared. -/
def scroll (terminal : FrameTerminal) : Option FrameTerminal := do
  let rowBytes := saturatingMul frame.info.stride frame.info.bytesPerPixel
  let bytes := saturatingMul frame.cellH rowBytes
  if frame.bufferLen ≤ bytes then
    clear frame terminal
  else
    let remaining ← plainSub frame.bufferLen bytes
    let stop ← plainAdd bytes remaining
    let terminal ← copyWithin frame terminal bytes stop 0
    let terminal ←
      writeZeros frame terminal remaining (frame.bufferLen - remaining)
    return { terminal with y := terminal.y - frame.cellH }

/-- Scroll if a character at the cursor would reach the lower edge. -/
def scrollIfBelow (terminal : FrameTerminal) : Option FrameTerminal :=
  if frame.info.height ≤ saturatingAdd terminal.y frame.font.height then
    scroll frame terminal
  else
    some terminal

/-- Go to the start of the next row. -/
def newline (terminal : FrameTerminal) : Option FrameTerminal :=
  scrollIfBelow frame { terminal with
    x := 0
    y := saturatingAdd terminal.y frame.cellH }

/-- Start a new row if a character at the cursor would reach the right edge. -/
def wrapIfFull (terminal : FrameTerminal) : Option FrameTerminal :=
  if frame.info.width ≤
      saturatingAdd (saturatingMul terminal.x frame.cellW)
        frame.font.width then
    newline frame terminal
  else
    some terminal

/-- What the serial port gets for a character. -/
def mirrored (character : UInt8) : List UInt8 :=
  if character = 0x0A then
    [0x0D, 0x0A]
  else if character = 0x0D then
    [0x0D]
  else if character = 0x09 then
    [0x09]
  else
    [character]

/-- The serial port, when the terminal is mirrored there. -/
def mirror
    (terminal : FrameTerminal)
    (bytes : List UInt8) :
    FrameTerminal :=
  if terminal.mirrorSerial then
    { terminal with serial := terminal.serial ++ bytes }
  else
    terminal

/-- A tab goes to the next multiple of four, wherever that is. -/
def tab (terminal : FrameTerminal) : Option FrameTerminal := do
  let stop ← plainAdd (terminal.x / 4) 1
  let x ← plainMul stop 4
  return { terminal with x }

/-- Draw a character at the cursor, on the next row if this one is full. -/
def putGlyph
    (terminal : FrameTerminal)
    (character : UInt8) :
    Option FrameTerminal := do
  let terminal ← wrapIfFull frame terminal
  let terminal ← scrollIfBelow frame terminal
  let terminal ←
    drawGlyph frame terminal character
      (saturatingMul terminal.x frame.cellW) terminal.y
  return { terminal with x := saturatingAdd terminal.x 1 }

def putChar
    (terminal : FrameTerminal)
    (character : UInt8) :
    Option FrameTerminal :=
  let terminal := mirror terminal (mirrored character)
  if character = 0x0A then
    newline frame terminal
  else if character = 0x0D then
    some { terminal with x := 0 }
  else if character = 0x09 then
    tab terminal
  else
    putGlyph frame terminal character

/-- Go back one cell, over the left edge to the row above, and blank the cell. -/
def backspace (terminal : FrameTerminal) : Option FrameTerminal := do
  let terminal := mirror terminal [0x08, 0x20, 0x08]
  let columns := frame.info.width / frame.cellW
  if 0 < terminal.x then
    let x ← plainSub terminal.x 1
    let terminal := { terminal with x }
    clearCell frame terminal (saturatingMul terminal.x frame.cellW) terminal.y
  else if terminal.y < frame.cellH ∨ columns = 0 then
    return terminal
  else
    let y ← plainSub terminal.y frame.cellH
    let x ← plainSub columns 1
    let terminal := { terminal with x, y }
    clearCell frame terminal (saturatingMul terminal.x frame.cellW) terminal.y

/-! ## Commands of escape sequences -/

/-- A parameter of the sequence; an absent or zero one is the default. -/
def csiParam
    (terminal : FrameTerminal)
    (index default : Nat) :
    Option Nat :=
  if terminal.csiCount ≤ index then
    some default
  else do
    let value ← terminal.csiParams[index]?
    return if value = 0 then default else value

/-- Go to a row and column, counted from one and clamped to the screen. -/
def cursorPosition
    (terminal : FrameTerminal)
    (row column : Nat) :
    FrameTerminal :=
  { terminal with
    y := saturatingMul (min (row - 1) (frame.rows - 1)) frame.cellH
    x := min (column - 1) (frame.columns - 1) }

/-- Blank the cells `start..stop` of the cursor's row. -/
def eraseLineRange
    (terminal : FrameTerminal)
    (start stop : Nat) :
    Option FrameTerminal :=
  let start := min start frame.columns
  let stop := min stop frame.columns
  if stop ≤ start then
    some terminal
  else
    (List.range' start (stop - start)).foldlM
      (fun terminal column =>
        clearCell frame terminal (saturatingMul column frame.cellW) terminal.y)
      terminal

/-- Blank the rows `first..stop`. -/
def eraseRows
    (terminal : FrameTerminal)
    (first stop : Nat) :
    Option FrameTerminal :=
  (List.range' first (stop - first)).foldlM
    (fun terminal row =>
      (List.range frame.columns).foldlM
        (fun terminal column =>
          clearCell frame terminal (saturatingMul column frame.cellW)
            (saturatingMul row frame.cellH))
        terminal)
    terminal

/-- Blank the screen from the cursor on. -/
def eraseDisplayFromCursor
    (terminal : FrameTerminal) :
    Option FrameTerminal := do
  let terminal ← eraseLineRange frame terminal terminal.x frame.columns
  let currentRow := terminal.y / frame.cellH
  eraseRows frame terminal (saturatingAdd currentRow 1) frame.rows

/-- Blank the screen up to the cursor. -/
def eraseDisplayToCursor
    (terminal : FrameTerminal) :
    Option FrameTerminal := do
  let currentRow := terminal.y / frame.cellH
  let terminal ← eraseRows frame terminal 0 currentRow
  eraseLineRange frame terminal 0 (saturatingAdd terminal.x 1)

/-- Go up by rows, not above the first one. -/
def rowUp (terminal : FrameTerminal) (amount : Nat) : FrameTerminal :=
  { terminal with
    y := saturatingMul (terminal.y / frame.cellH - amount) frame.cellH }

/-- Go down by rows, not below the last one. -/
def rowDown (terminal : FrameTerminal) (amount : Nat) : FrameTerminal :=
  { terminal with
    y := saturatingMul
      (min (saturatingAdd (terminal.y / frame.cellH) amount) (frame.rows - 1))
      frame.cellH }

/-- Obey a complete sequence. -/
def finishCsi
    (terminal : FrameTerminal)
    (command : UInt8) :
    Option FrameTerminal := do
  if command = 'A'.toUInt8 then
    return rowUp frame terminal (← csiParam terminal 0 1)
  else if command = 'B'.toUInt8 then
    return rowDown frame terminal (← csiParam terminal 0 1)
  else if command = 'C'.toUInt8 then
    let amount ← csiParam terminal 0 1
    return { terminal with
      x := min (saturatingAdd terminal.x amount) (frame.columns - 1) }
  else if command = 'D'.toUInt8 then
    let amount ← csiParam terminal 0 1
    return { terminal with x := terminal.x - amount }
  else if command = 'E'.toUInt8 then
    let amount ← csiParam terminal 0 1
    return { rowDown frame terminal amount with x := 0 }
  else if command = 'F'.toUInt8 then
    let amount ← csiParam terminal 0 1
    return { rowUp frame terminal amount with x := 0 }
  else if command = 'G'.toUInt8 ∨ command = 0x60 then
    let column ← csiParam terminal 0 1
    return { terminal with x := min (column - 1) (frame.columns - 1) }
  else if command = 'd'.toUInt8 then
    let row ← csiParam terminal 0 1
    return { terminal with
      y := saturatingMul (min (row - 1) (frame.rows - 1)) frame.cellH }
  else if command = 'H'.toUInt8 ∨ command = 'f'.toUInt8 then
    let row ← csiParam terminal 0 1
    let column ← csiParam terminal 1 1
    return cursorPosition frame terminal row column
  else if command = 'J'.toUInt8 then
    let part ← csiParam terminal 0 0
    if part = 0 then
      eraseDisplayFromCursor frame terminal
    else if part = 1 then
      eraseDisplayToCursor frame terminal
    else if part = 2 ∨ part = 3 then
      clear frame terminal
    else
      return terminal
  else if command = 'K'.toUInt8 then
    let part ← csiParam terminal 0 0
    if part = 0 then
      eraseLineRange frame terminal terminal.x frame.columns
    else if part = 1 then
      eraseLineRange frame terminal 0 (saturatingAdd terminal.x 1)
    else if part = 2 then
      eraseLineRange frame terminal 0 frame.columns
    else
      return terminal
  else if command = 'P'.toUInt8 then
    let param ← csiParam terminal 0 1
    let amount := min param (frame.columns - terminal.x)
    eraseLineRange frame terminal terminal.x
      (saturatingAdd terminal.x amount)
  else if command = 's'.toUInt8 then
    return { terminal with savedX := terminal.x, savedY := terminal.y }
  else if command = 'u'.toUInt8 then
    return { terminal with x := terminal.savedX, y := terminal.savedY }
  else
    -- `@`, `m`, `h`, `l`, `n`, `r` and every unknown command do nothing.
    return terminal

/-! ## The state machine -/

/-- Store the parameter that was being read, unless all eight are taken. -/
def pushParam (terminal : FrameTerminal) : FrameTerminal :=
  if inRange : terminal.csiCount < 8 then
    { terminal with
      csiParams :=
        terminal.csiParams.set terminal.csiCount
          (if terminal.csiHaveValue then terminal.csiValue else 0)
          inRange
      csiCount := terminal.csiCount + 1 }
  else
    terminal

/-- A byte outside escape sequences. -/
def plainByte
    (terminal : FrameTerminal)
    (byte : UInt8) :
    Option FrameTerminal :=
  if byte = 0x1B then
    some { terminal with ansiState := 1 }
  else if byte = 0x08 ∨ byte = 0x7F then
    backspace frame terminal
  else if byte = 0x07 then
    some terminal
  else
    putChar frame terminal byte

def escapedByte
    (terminal : FrameTerminal)
    (byte : UInt8) :
    FrameTerminal :=
  if byte = '['.toUInt8 then
    { terminal with
      ansiState := 2
      csiParams := Vector.replicate 8 0
      csiCount := 0
      csiValue := 0
      csiHaveValue := false
      csiPrivate := false }
  else if byte = ']'.toUInt8 then
    { terminal with ansiState := 3 }
  else if byte = '7'.toUInt8 then
    { terminal with
      savedX := terminal.x
      savedY := terminal.y
      ansiState := 0 }
  else if byte = '8'.toUInt8 then
    { terminal with
      x := terminal.savedX
      y := terminal.savedY
      ansiState := 0 }
  else
    { terminal with ansiState := 0 }

/-- A byte of a control sequence; values saturate at `u16::MAX`. -/
def csiByte
    (terminal : FrameTerminal)
    (byte : UInt8) :
    Option FrameTerminal := do
  if byte = '?'.toUInt8 ∧ !terminal.csiHaveValue ∧ terminal.csiCount = 0 then
    return { terminal with csiPrivate := true }
  else if '0'.toUInt8 ≤ byte ∧ byte ≤ '9'.toUInt8 then
    return { terminal with
      csiValue :=
        min (min (terminal.csiValue * 10) (2 ^ 16 - 1) +
          (byte - '0'.toUInt8).toNat) (2 ^ 16 - 1)
      csiHaveValue := true }
  else if byte = ';'.toUInt8 then
    return { pushParam terminal with csiValue := 0, csiHaveValue := false }
  else if 0x40 ≤ byte ∧ byte ≤ 0x7E then
    let terminal ← finishCsi frame (pushParam terminal) byte
    return { terminal with ansiState := 0 }
  else
    return { terminal with ansiState := 0 }

/-- One byte of `write_bytes`. -/
def writeByte
    (terminal : FrameTerminal)
    (byte : UInt8) :
    Option FrameTerminal :=
  match terminal.ansiState with
  | 0 => plainByte frame terminal byte
  | 1 => some (escapedByte terminal byte)
  | 2 => csiByte frame terminal byte
  | 3 =>
      if byte = 0x07 then
        some { terminal with ansiState := 0 }
      else if byte = 0x1B then
        some { terminal with ansiState := 4 }
      else
        some terminal
  | 4 =>
      if byte = 0x5C then
        some { terminal with ansiState := 0 }
      else if byte = 0x1B then
        some { terminal with ansiState := 4 }
      else
        some { terminal with ansiState := 3 }
  | _ => some { terminal with ansiState := 0 }

/-! ## Operations -/

/-- Write bytes; they are not mirrored to the serial port. -/
def writeBytes
    (terminal : FrameTerminal)
    (bytes : List UInt8) :
    Option FrameTerminal := do
  let oldMirror := terminal.mirrorSerial
  let terminal ←
    bytes.foldlM (writeByte frame) { terminal with mirrorSerial := false }
  return { terminal with mirrorSerial := oldMirror }

/-- `write_str`: the bytes are characters, escape sequences included. -/
def writeStr
    (terminal : FrameTerminal)
    (bytes : List UInt8) :
    Option FrameTerminal :=
  bytes.foldlM (putChar frame) terminal

/-- `write_char`: only characters of a single byte are shown. -/
def writeChar
    (terminal : FrameTerminal)
    (character : Char) :
    Option FrameTerminal :=
  if character.toNat < 128 then
    putChar frame terminal character.toUInt8
  else
    some terminal

def new (buffer : Nat → UInt8) : Option FrameTerminal := do
  let _cellW ← plainAdd frame.font.width 1
  let _cellH ← plainAdd frame.font.height 1
  clear frame {
    buffer := buffer
    x := 0
    y := 0
    mirrorSerial := false
    ansiState := 0
    csiParams := Vector.replicate 8 0
    csiCount := 0
    csiValue := 0
    csiHaveValue := false
    csiPrivate := false
    savedX := 0
    savedY := 0
    serial := [] }

end FrameTerminal

/-- What the kernel does with a terminal. -/
inductive Operation where
  | writeBytes (bytes : List UInt8)
  | writeStr (bytes : List UInt8)
  | writeChar (character : Char)
  | backspace
  | clear
  | setSerialMirror (enabled : Bool)

/-- Carry out an operation. -/
def FrameTerminal.perform
    (frame : Frame)
    (terminal : FrameTerminal) :
    Operation → Option FrameTerminal
  | .writeBytes bytes => terminal.writeBytes frame bytes
  | .writeStr bytes => terminal.writeStr frame bytes
  | .writeChar character => terminal.writeChar frame character
  | .backspace => terminal.backspace frame
  | .clear => terminal.clear frame
  | .setSerialMirror enabled => some { terminal with mirrorSerial := enabled }

end VibuxOS.Screen
