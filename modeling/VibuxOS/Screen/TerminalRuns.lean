import VibuxOS.Screen.Sequences

namespace VibuxOS.Screen

open VibuxOS.Lib
open VibuxOS.Lib.Usize

/-!
# Runs of the terminal

A byte keeps the cursor on the screen exactly when it is no tab over the edge, and
only a byte outside escape sequences can be one.  So a terminal on which every tab
stops on the screen stays on its screen, whatever else is written.
-/

namespace FrameTerminal

variable
    {frame : Frame}
    {terminal : FrameTerminal}

/-! ## One byte -/

/-- A byte of `write_bytes` is no tab outside escape sequences, or it fits. -/
def ByteFits
    (frame : Frame)
    (terminal : FrameTerminal)
    (byte : UInt8) : Prop :=
  terminal.ansiState = 0 → TabFits frame terminal byte

section

variable
  (holds : HoldsACell frame)
  (on : OnScreen frame terminal)

include holds on

theorem plainByte_onScreen_iff
    (byte : UInt8) :
    Gives (plainByte frame terminal byte) (OnScreen frame) ↔
      TabFits frame terminal byte := by
  unfold plainByte
  by_cases isEscape : byte = 0x1B
  · rw [if_pos isEscape]
    constructor
    · intro _ isTab
      exact absurd (isEscape.symm.trans isTab) (by decide)
    · intro _
      exact Gives.some ⟨on.cursor, on.saved⟩
  by_cases isBack : byte = 0x08 ∨ byte = 0x7F
  · rw [if_neg isEscape, if_pos isBack]
    constructor
    · rintro _ rfl
      exact absurd isBack (by decide)
    · intro _
      exact backspace_given holds on
  by_cases isBell : byte = 0x07
  · rw [if_neg isEscape, if_neg isBack, if_pos isBell]
    constructor
    · intro _ isTab
      exact absurd (isBell.symm.trans isTab) (by decide)
    · intro _
      exact Gives.some on
  · rw [if_neg isEscape, if_neg isBack, if_neg isBell]
    exact putChar_onScreen_iff holds on byte

theorem writeByte_onScreen_iff
    (byte : UInt8) :
    Gives (writeByte frame terminal byte) (OnScreen frame) ↔
      ByteFits frame terminal byte := by
  by_cases isPlain : terminal.ansiState = 0
  · unfold writeByte ByteFits
    simp only [isPlain, forall_const]
    exact plainByte_onScreen_iff holds on byte
  · constructor
    · intro _ isZero
      exact absurd isZero isPlain
    · intro _
      have inState : ∀ state,
          OnScreen frame { terminal with ansiState := state } :=
        fun _ => ⟨on.cursor, on.saved⟩
      unfold writeByte
      split
      · exact absurd ‹_› isPlain
      · exact Gives.some (escapedByte_onScreen on byte)
      · exact csiByte_given holds on byte
      · apply Gives.ite
        · intro _
          exact Gives.some (inState 0)
        intro _
        apply Gives.ite
        · intro _
          exact Gives.some (inState 4)
        · intro _
          exact Gives.some on
      · apply Gives.ite
        · intro _
          exact Gives.some (inState 0)
        intro _
        apply Gives.ite
        · intro _
          exact Gives.some (inState 4)
        · intro _
          exact Gives.some (inState 3)
      · exact Gives.some (inState 0)

/-! ## Operations -/

/-- Every tab of an operation stops on the screen. -/
def OperationFits
    (frame : Frame)
    (terminal : FrameTerminal) :
    Operation → Prop
  | .writeBytes bytes =>
      Meets (ByteFits frame) (writeByte frame) bytes
        { terminal with mirrorSerial := false }
  | .writeStr bytes => Meets (TabFits frame) (putChar frame) bytes terminal
  | .writeChar character =>
      character.toNat < 128 → TabFits frame terminal character.toUInt8
  | .backspace => True
  | .clear => True
  | .setSerialMirror _ => True

theorem perform_given
    {operation : Operation}
    (fits : OperationFits frame terminal operation) :
    Gives (perform frame terminal operation) (OnScreen frame) := by
  cases operation with
  | writeBytes bytes =>
      have written :
          Gives
            (bytes.foldlM (writeByte frame)
              { terminal with mirrorSerial := false })
            (OnScreen frame) :=
        Meets.gives
          (fun current byte onCurrent =>
            (writeByte_onScreen_iff holds onCurrent byte).mpr)
          fits ⟨on.cursor, on.saved⟩
      exact written.bind fun _ onAfter =>
        Gives.some ⟨onAfter.cursor, onAfter.saved⟩
  | writeStr bytes =>
      exact Meets.gives
        (fun current byte onCurrent =>
          (putChar_onScreen_iff holds onCurrent byte).mpr)
        fits on
  | writeChar character =>
      apply Gives.ite
      · intro isAscii
        exact (putChar_onScreen_iff holds on _).mpr (fits isAscii)
      · intro _
        exact Gives.some on
  | backspace =>
      exact backspace_given holds on
  | clear =>
      exact (clear_given frame terminal on.saved).imp fun _ => And.left
  | setSerialMirror enabled =>
      exact Gives.some ⟨on.cursor, on.saved⟩

end

/-! ## Runs -/

theorem new_given
    (frame : Frame)
    (buffer : Nat → UInt8) :
    Gives (new frame buffer) (OnScreen frame) := by
  obtain ⟨widthSmall, heightSmall⟩ := Font.small_of_parse frame.parsed
  have cellW : frame.font.width + 1 ≤ usizeMax := by
    unfold usizeMax
    omega
  have cellH : frame.font.height + 1 ≤ usizeMax := by
    unfold usizeMax
    omega
  unfold new
  refine Gives.bind_eq (plainAdd_eq cellW) ?_
  refine Gives.bind_eq (plainAdd_eq cellH) ?_
  exact (clear_given frame _ (onCell_home frame)).imp fun _ => And.left

/--
A new terminal stays on its screen, without a fault, after every operation of a run
in which every tab stops on the screen.
-/
theorem terminal_onScreen_of_tabsFit
    {frame : Frame}
    (holds : HoldsACell frame)
    (buffer : Nat → UInt8) :
    Gives (new frame buffer) fun start =>
      OnScreen frame start ∧
        ∀ before after : List Operation,
          Meets (OperationFits frame) (perform frame) (before ++ after)
            start →
          Gives (before.foldlM (perform frame) start)
            (OnScreen frame) := by
  apply (new_given frame buffer).imp
  intro start onStart
  refine ⟨onStart, ?_⟩
  intro before after met
  exact Meets.gives
    (fun current operation onCurrent => perform_given holds onCurrent)
    met.of_append onStart

/-! ## A screen of 91 columns -/

/-- The header of the default font: 256 glyphs of six by twelve pixels. -/
def fontHeader : List UInt8 :=
  [0x72, 0xB5, 0x4A, 0x86, 0, 0, 0, 0, 0x20, 0, 0, 0, 1, 0, 0, 0,
    0, 1, 0, 0, 0x0C, 0, 0, 0, 0x0C, 0, 0, 0, 0x06, 0, 0, 0]

/-- A screen of 640 by 480 pixels of three bytes. -/
def vgaFrame : Frame where
  info := {
    width := 640
    height := 480
    stride := 640
    bytesPerPixel := 3
    pixelFormat := .rgb
    width_le := by decide
    height_le := by decide }
  bufferLen := 921600
  fontData := fontHeader
  font := {
    offset := 32
    glyphSize := 12
    glyphCount := 256
    width := 6
    height := 12 }
  parsed := by decide
  bufferLen_lt := by decide

theorem vgaFrame_holdsACell : HoldsACell vgaFrame where
  wide := by decide
  tall := by decide

/-- A screen of 91 columns. -/
theorem terminal_onScreen_of_tabsFit_vga :
    Gives (new vgaFrame fun _ => 0) fun start =>
      OnScreen vgaFrame start ∧
        ∀ before after : List Operation,
          Meets (OperationFits vgaFrame) (perform vgaFrame)
            (before ++ after) start →
          Gives (before.foldlM (perform vgaFrame) start)
            (OnScreen vgaFrame) :=
  terminal_onScreen_of_tabsFit vgaFrame_holdsACell fun _ => 0

/-- The cursor's column after `write_bytes` on a new terminal. -/
def columnAfter (frame : Frame) (bytes : List UInt8) : Option Nat := do
  let start ← new frame fun _ => 0
  let after ← writeBytes frame start bytes
  return after.x

theorem columnAfter_tabs :
    columnAfter vgaFrame (List.replicate 23 0x09) = some 92 ∧
      vgaFrame.columns = 91 := by
  decide

/-- Not every run stays on its screen: tabs are not clamped. -/
theorem tabs_leave_screen :
    ¬∀ frame : Frame,
      HoldsACell frame →
      frame.info.width ≤ frame.info.stride →
      frame.info.height * frame.info.stride * frame.info.bytesPerPixel ≤
        frame.bufferLen →
      ∀ (buffer : Nat → UInt8) (operations : List Operation),
        Gives (new frame buffer) fun start =>
          Gives (operations.foldlM (perform frame) start)
            (OnScreen frame) := by
  intro always
  obtain ⟨start, created, after, performed, on⟩ :=
    always vgaFrame vgaFrame_holdsACell (by decide) (by decide)
      (fun _ => 0) [.writeBytes (List.replicate 23 0x09)]
  rw [List.foldlM_cons] at performed
  obtain ⟨written, wrote, same⟩ := Option.bind_eq_some_iff.mp performed
  cases same
  have column :
      columnAfter vgaFrame (List.replicate 23 0x09) = some after.x := by
    have wroteBytes :
        writeBytes vgaFrame start (List.replicate 23 0x09) =
          some after :=
      wrote
    unfold columnAfter
    rw [created]
    change (writeBytes vgaFrame start _ >>= _) = _
    rw [wroteBytes]
    rfl
  obtain ⟨passed, last⟩ := columnAfter_tabs
  have beyond : after.x = 92 :=
    Option.some.inj (column.symm.trans passed)
  have onColumn := on.cursor.x_le
  omega

end FrameTerminal

end VibuxOS.Screen
