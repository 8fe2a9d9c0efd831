import VibuxOS.Files.Descriptors
import VibuxOS.Lib.RingQueue

namespace VibuxOS.Tty

open VibuxOS.Lib VibuxOS.Files

/-!
# The input side of the terminal

The keyboard interrupt and `read_byte` share the statics of the terminal.  The
interrupt keeps the modifiers, carries out control keys at once and queues every
other scancode; `read_byte` translates queued scancodes with the modifiers as
they are by then, edits the line and moves finished lines into the input queue.

What the functions echo and trace is left out.
-/

/-- `SCANCODE_QUEUE_SIZE` -/
def scancodeQueueSize : Nat := 256

/-- `SHIFT`, `CTRL` and `CAPS` -/
structure Modifiers where
  shift : Bool
  ctrl : Bool
  caps : Bool
  deriving Repr, DecidableEq

/--
The statics of the terminal, the bytes that wait in the serial port, and the
signals of the process.  `raised` records the signals that the terminal raised.
-/
structure Terminal where
  input : RingQueue UInt8 inputCapacity
  line : Nat → UInt8
  lineLen : Nat
  lineFits : lineLen < lineCapacity
  lflag : UInt32
  modifiers : Modifiers
  serial : List UInt8
  scancodes : RingQueue UInt8 scancodeQueueSize
  process : Signals.ProcessState
  pending : UInt64
  raised : List UInt64

/-- `ICANON` is set. -/
def canonical (lflag : UInt32) : Bool := lflag &&& icanon != 0

/-- `ISIG` is set. -/
def signalling (lflag : UInt32) : Bool := lflag &&& isig != 0

namespace Terminal

/-- The bytes kept of the current line. -/
def kept (terminal : Terminal) : List UInt8 :=
  (List.range terminal.lineLen).map terminal.line

/-- `LINE_LEN = 0` -/
def dropLine (terminal : Terminal) : Terminal :=
  { terminal with
    lineLen := 0
    lineFits := by decide }

/-- `push_input` -/
def pushInput (terminal : Terminal) (byte : UInt8) : Terminal :=
  { terminal with input := terminal.input.push byte }

/-- `flush_line` -/
def flushLine (terminal : Terminal) : Terminal :=
  ((terminal.kept.foldl pushInput terminal).pushInput 10).dropLine

/-- `raise_signal_from_tty` -/
def raiseSignal (terminal : Terminal) (signum : UInt64) : Terminal :=
  { terminal with
    pending := terminal.pending ||| Signals.signalBit signum
    raised := terminal.raised ++ [signum] }

/-- `LINE[LINE_LEN] = byte`, unless the line is full -/
def keep (terminal : Terminal) (byte : UInt8) : Terminal :=
  if room : terminal.lineLen < lineCapacity - 1 then
    { terminal with
      line := Function.update terminal.line terminal.lineLen byte
      lineLen := terminal.lineLen + 1
      lineFits := by
        unfold lineCapacity at room ⊢
        omega }
  else
    terminal

/-- `LINE_LEN -= 1`, unless the line is empty -/
def erase (terminal : Terminal) : Terminal :=
  { terminal with
    lineLen := terminal.lineLen - 1
    lineFits := Nat.lt_of_le_of_lt (Nat.sub_le _ _) terminal.lineFits }

@[simp] theorem length_kept
    (terminal : Terminal) :
    terminal.kept.length = terminal.lineLen := by
  simp [kept]

@[simp] theorem kept_dropLine
    (terminal : Terminal) :
    terminal.dropLine.kept = [] :=
  rfl

/-- Erasing takes the last kept byte. -/
@[simp] theorem kept_erase
    (terminal : Terminal) :
    terminal.erase.kept = terminal.kept.dropLast := by
  change
    (List.range (terminal.lineLen - 1)).map terminal.line =
      ((List.range terminal.lineLen).map terminal.line).dropLast
  rw [← List.map_dropLast]
  cases terminal.lineLen with
  | zero =>
      rfl
  | succ less =>
      simp [List.range_succ]

/-- Another byte is kept as long as the line has room. -/
@[simp] theorem kept_keep
    (terminal : Terminal)
    (byte : UInt8) :
    (terminal.keep byte).kept =
      if terminal.kept.length < lineCapacity - 1 then
        terminal.kept ++ [byte]
      else
        terminal.kept := by
  rw [length_kept]
  unfold keep
  split
  case isTrue room =>
    simp only [kept, List.range_succ, List.map_append, List.map_cons,
      List.map_nil, Function.update_self]
    congr 1
    apply List.map_congr_left
    intro index inside
    have before := List.mem_range.mp inside
    exact Function.update_of_ne (Nat.ne_of_lt before) _ _
  case isFalse =>
    rfl

section Keep

variable (terminal : Terminal) (byte : UInt8)

@[simp] theorem input_keep :
    (terminal.keep byte).input = terminal.input := by
  unfold keep
  split <;> rfl

@[simp] theorem lflag_keep :
    (terminal.keep byte).lflag = terminal.lflag := by
  unfold keep
  split <;> rfl

@[simp] theorem modifiers_keep :
    (terminal.keep byte).modifiers = terminal.modifiers := by
  unfold keep
  split <;> rfl

@[simp] theorem serial_keep :
    (terminal.keep byte).serial = terminal.serial := by
  unfold keep
  split <;> rfl

@[simp] theorem scancodes_keep :
    (terminal.keep byte).scancodes = terminal.scancodes := by
  unfold keep
  split <;> rfl

@[simp] theorem raised_keep :
    (terminal.keep byte).raised = terminal.raised := by
  unfold keep
  split <;> rfl

end Keep

theorem take_kept
    {terminal : Terminal}
    {index : Nat}
    (inside : index < terminal.lineLen) :
    terminal.kept.take (index + 1) =
      terminal.kept.take index ++ [terminal.line index] := by
  rw [List.take_succ_eq_append_getElem (by simpa using inside)]
  simp [kept]

end Terminal

/-! ## The keyboard -/

/-- `scancode & 0x80 != 0` -/
def isRelease (scancode : UInt8) : Bool := scancode &&& 0x80 != 0

/-- `scancode & 0x7f` -/
def keyCode (scancode : UInt8) : UInt8 := scancode &&& 0x7f

/--
The first `match` of `handle_keyboard_interrupt` and of `keyboard_ascii`: the
modifiers after a modifier key or the release of a key.
-/
def Modifiers.handled?
    (modifiers : Modifiers)
    (scancode : UInt8) :
    Option Modifiers :=
  let released := isRelease scancode
  let code := keyCode scancode
  if code = 0x2a ∨ code = 0x36 then
    some { modifiers with shift := !released }
  else if code = 0x1d then
    some { modifiers with ctrl := !released }
  else if code = 0x3a ∧ released = false then
    some { modifiers with caps := !modifiers.caps }
  else if released then
    some modifiers
  else
    none

/-- The signal of a control key and the byte that stands for it. -/
def controlSignal? (code : UInt8) : Option (UInt64 × UInt8) :=
  if code = 0x2e then
    some (2, 0x03)
  else if code = 0x2b then
    some (3, 0x1c)
  else if code = 0x2c then
    some (20, 0x1a)
  else
    none

/-- `handle_keyboard_interrupt` on a key pressed while `CTRL` is set -/
def controlKey? (terminal : Terminal) (code : UInt8) : Option Terminal :=
  match controlSignal? code with
  | some (signum, byte) =>
      if signalling terminal.lflag then
        some (terminal.dropLine.raiseSignal signum)
      else
        some (terminal.dropLine.pushInput byte)
  | none =>
      if code = 0x20 then
        if canonical terminal.lflag then
          if terminal.lineLen = 0 then
            some (terminal.pushInput 0)
          else
            some terminal.flushLine
        else
          some (terminal.pushInput 0x04)
      else if code = 0x26 then
        some (terminal.pushInput 0x0c)
      else
        none

/--
`handle_keyboard_interrupt`; `none` when the scancode is left to `read_byte`.
-/
def handleKeyboardInterrupt
    (terminal : Terminal)
    (scancode : UInt8) :
    Option Terminal :=
  match terminal.modifiers.handled? scancode with
  | some modifiers => some { terminal with modifiers := modifiers }
  | none =>
      if terminal.modifiers.ctrl then
        controlKey? terminal (keyCode scancode)
      else
        none

/-- `interrupt_dispatch` for vector 33 -/
def keyboardInterrupt (terminal : Terminal) (scancode : UInt8) : Terminal :=
  match handleKeyboardInterrupt terminal scancode with
  | some handled => handled
  | none => { terminal with scancodes := terminal.scancodes.push scancode }

/-- `u8::to_ascii_uppercase` -/
def toAsciiUppercase (byte : UInt8) : UInt8 :=
  if 0x61 ≤ byte ∧ byte ≤ 0x7a then byte - 0x20 else byte

/-- The `match` of `keyboard_ascii` on keys without `CTRL`. -/
def keyAscii? (modifiers : Modifiers) (code : UInt8) : Option UInt8 :=
  let pick (plain shifted : Char) : Option UInt8 :=
    some (if modifiers.shift then shifted.toUInt8 else plain.toUInt8)
  let letter (base : Char) : Option UInt8 :=
    some
      (if modifiers.caps ^^ modifiers.shift then
        toAsciiUppercase base.toUInt8
      else
        base.toUInt8)
  match code with
  | 0x01 => some 0x1b
  | 0x02 => pick '1' '!'
  | 0x03 => pick '2' '@'
  | 0x04 => pick '3' '#'
  | 0x05 => pick '4' '$'
  | 0x06 => pick '5' '%'
  | 0x07 => pick '6' '^'
  | 0x08 => pick '7' '&'
  | 0x09 => pick '8' '*'
  | 0x0a => pick '9' '('
  | 0x0b => pick '0' ')'
  | 0x0c => pick '-' '_'
  | 0x0d => pick '=' '+'
  | 0x0e => some 0x7f
  | 0x0f => some 0x09
  | 0x10 => letter 'q'
  | 0x11 => letter 'w'
  | 0x12 => letter 'e'
  | 0x13 => letter 'r'
  | 0x14 => letter 't'
  | 0x15 => letter 'y'
  | 0x16 => letter 'u'
  | 0x17 => letter 'i'
  | 0x18 => letter 'o'
  | 0x19 => letter 'p'
  | 0x1a => pick '[' (Char.ofNat 0x7b)
  | 0x1b => pick ']' (Char.ofNat 0x7d)
  | 0x1c => some 0x0a
  | 0x1e => letter 'a'
  | 0x1f => letter 's'
  | 0x20 => letter 'd'
  | 0x21 => letter 'f'
  | 0x22 => letter 'g'
  | 0x23 => letter 'h'
  | 0x24 => letter 'j'
  | 0x25 => letter 'k'
  | 0x26 => letter 'l'
  | 0x27 => pick ';' ':'
  | 0x28 => pick (Char.ofNat 0x27) '"'
  | 0x29 => pick (Char.ofNat 0x60) '~'
  | 0x2b => pick (Char.ofNat 0x5c) '|'
  | 0x2c => letter 'z'
  | 0x2d => letter 'x'
  | 0x2e => letter 'c'
  | 0x2f => letter 'v'
  | 0x30 => letter 'b'
  | 0x31 => letter 'n'
  | 0x32 => letter 'm'
  | 0x33 => pick ',' '<'
  | 0x34 => pick '.' '>'
  | 0x35 => pick '/' '?'
  | 0x39 => some 0x20
  | _ => none

/-- `keyboard_ascii`, the modifiers after it and the byte -/
def keyboardAscii
    (modifiers : Modifiers)
    (scancode : UInt8) :
    Modifiers × Option UInt8 :=
  match modifiers.handled? scancode with
  | some changed => (changed, none)
  | none =>
      let code := keyCode scancode
      if modifiers.ctrl then
        if code = 0x2e then
          (modifiers, some 0x03)
        else if code = 0x20 then
          (modifiers, some 0x04)
        else if code = 0x26 then
          (modifiers, some 0x0c)
        else
          (modifiers, none)
      else
        (modifiers, keyAscii? modifiers code)

example :
    keyboardAscii ⟨true, false, false⟩ 0x1e =
      (⟨true, false, false⟩, some 0x41) := by
  decide

/-! ## Signals -/

/--
The loop of `signal_pending_unblocked` over a set of signals: whether one of
them is heeded, and the pending signals without those found to be ignored.
-/
def signalPendingUnblockedLoop
    (process : Signals.ProcessState)
    (set : UInt64) :
    List UInt64 →
    UInt64 →
    Bool × UInt64
  | [], pending => (false, pending)
  | signum :: rest, pending =>
      if set &&& Signals.signalBit signum = 0 then
        signalPendingUnblockedLoop process set rest pending
      else if
          (process.signalActions (signum - 1).toNat).ignores signum then
        signalPendingUnblockedLoop process set rest
          (pending &&& ~~~Signals.signalBit signum)
      else
        (true, pending)

/-- `signal_pending_unblocked` -/
def signalPendingUnblocked (terminal : Terminal) : Bool × Terminal :=
  let (found, pending) :=
    signalPendingUnblockedLoop terminal.process
      (terminal.pending &&& ~~~terminal.process.signalMask) signalNumbers
      terminal.pending
  (found, { terminal with pending := pending })

section Checked

variable (terminal : Terminal)

@[simp] theorem input_signalPendingUnblocked :
    (signalPendingUnblocked terminal).2.input = terminal.input :=
  rfl

@[simp] theorem lineLen_signalPendingUnblocked :
    (signalPendingUnblocked terminal).2.lineLen = terminal.lineLen :=
  rfl

@[simp] theorem kept_signalPendingUnblocked :
    (signalPendingUnblocked terminal).2.kept = terminal.kept :=
  rfl

@[simp] theorem lflag_signalPendingUnblocked :
    (signalPendingUnblocked terminal).2.lflag = terminal.lflag :=
  rfl

@[simp] theorem modifiers_signalPendingUnblocked :
    (signalPendingUnblocked terminal).2.modifiers = terminal.modifiers :=
  rfl

@[simp] theorem serial_signalPendingUnblocked :
    (signalPendingUnblocked terminal).2.serial = terminal.serial :=
  rfl

@[simp] theorem scancodes_signalPendingUnblocked :
    (signalPendingUnblocked terminal).2.scancodes = terminal.scancodes :=
  rfl

@[simp] theorem raised_signalPendingUnblocked :
    (signalPendingUnblocked terminal).2.raised = terminal.raised :=
  rfl

end Checked

end VibuxOS.Tty
