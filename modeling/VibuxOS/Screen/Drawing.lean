import VibuxOS.Screen.Operations

namespace VibuxOS.Screen

open VibuxOS.Lib
open VibuxOS.Lib.Usize

/-!
# Drawing stays in the framebuffer

Every row that is drawn or blanked is checked against the end of the buffer before
the first byte is stored, with numbers that saturate far beyond it.  So nothing that
draws faults, at any coordinates, and it changes pixels only.
-/

/-- Two terminals with the same cursor, sequence and mirror. -/
def OnlyPixelsDiffer (start terminal : FrameTerminal) : Prop :=
  ∃ buffer, terminal = { start with buffer }

namespace OnlyPixelsDiffer

theorem refl (terminal : FrameTerminal) :
    OnlyPixelsDiffer terminal terminal :=
  ⟨terminal.buffer, rfl⟩

theorem trans
    {first second third : FrameTerminal}
    (before : OnlyPixelsDiffer first second)
    (after : OnlyPixelsDiffer second third) :
    OnlyPixelsDiffer first third := by
  obtain ⟨_, rfl⟩ := before
  obtain ⟨buffer, rfl⟩ := after
  exact ⟨buffer, rfl⟩

end OnlyPixelsDiffer

/-- A step that neither faults nor changes anything but pixels. -/
def Draws (terminal : FrameTerminal) (result : Option FrameTerminal) : Prop :=
  Gives result (OnlyPixelsDiffer terminal)

namespace FrameTerminal

variable
    {frame : Frame}
    {terminal : FrameTerminal}

theorem draws_self : Draws terminal (some terminal) :=
  Gives.some (OnlyPixelsDiffer.refl terminal)

theorem draws_foldlM
    {α : Type}
    {step : FrameTerminal → α → Option FrameTerminal}
    {items : List α}
    (each : ∀ item ∈ items, ∀ current, Draws current (step current item)) :
    Draws terminal (items.foldlM step terminal) := by
  apply Gives.foldlM
  · intro item member current drawn
    exact (each item member current).imp fun _ => drawn.trans
  · exact OnlyPixelsDiffer.refl terminal

theorem draws_foldUntil
    {α : Type}
    {leaves : α → Bool}
    {step : FrameTerminal → α → Option FrameTerminal}
    {items : List α}
    (each :
      ∀ item ∈ items, leaves item = false → ∀ current,
        Draws current (step current item)) :
    Draws terminal (foldUntil leaves step items terminal) := by
  apply Gives.foldUntil
  · intro item member stays current drawn
    exact (each item member stays current).imp fun _ => drawn.trans
  · exact OnlyPixelsDiffer.refl terminal

/-! ## Bytes inside the buffer -/

theorem bufferLen_lt_usizeMax (frame : Frame) :
    frame.bufferLen < usizeMax := by
  have bounded := frame.bufferLen_lt
  unfold usizeMax
  omega

theorem draws_writeZeros
    {offset count : Nat}
    (inside : offset + count ≤ frame.bufferLen) :
    Draws terminal (writeZeros frame terminal offset count) :=
  Gives.of_eq (if_pos inside) ⟨_, rfl⟩

theorem draws_writeBytesAt
    {offset : Nat}
    {values : List UInt8}
    (inside : offset + values.length ≤ frame.bufferLen) :
    Draws terminal (writeBytesAt frame terminal offset values) := by
  induction values generalizing terminal offset with
  | nil =>
      exact draws_self
  | cons value rest inductionHypothesis =>
      rw [List.length_cons] at inside
      have first : offset < frame.bufferLen := by omega
      have others : offset + 1 + rest.length ≤ frame.bufferLen := by omega
      unfold writeBytesAt
      refine Gives.bind_eq (if_pos first) ?_
      exact (inductionHypothesis others).imp fun _ drawn =>
        OnlyPixelsDiffer.trans ⟨_, rfl⟩ drawn

theorem draws_clearCell
    (frame : Frame)
    (terminal : FrameTerminal)
    (x y : Nat) :
    Draws terminal (clearCell frame terminal x y) := by
  unfold clearCell
  apply Gives.ite
  · intro _
    exact draws_self
  · intro onScreen
    have inWidth : x < frame.info.width := by omega
    have xSmall : x ≤ usizeMax :=
      Nat.le_trans (Nat.le_of_lt inWidth) frame.info.width_le
    have ordered :
        x ≤ min (saturatingAdd x frame.cellW) frame.info.width :=
      Nat.le_min.mpr
        ⟨left_le_saturatingAdd _ xSmall, Nat.le_of_lt inWidth⟩
    refine Gives.bind_eq (plainSub_eq ordered) ?_
    apply draws_foldUntil
    intro py _ stays current
    have fits := Nat.le_of_not_lt (of_decide_eq_false stays)
    exact draws_writeZeros
      ((saturatingAdd_le_iff (bufferLen_lt_usizeMax frame)).mp fits)

/-! ## Glyphs -/

theorem lit_given
    (glyph : List UInt8)
    (index col : Nat) :
    Gives (lit glyph index col) fun _ => True := by
  unfold lit
  apply Gives.ite
  · intro inGlyph
    exact Gives.bind_eq (List.getElem?_eq_getElem inGlyph)
      (Gives.some trivial)
  · intro _
    exact Gives.some trivial

theorem length_le_of_pixelBytes
    {format : PixelFormat}
    {pixel : List UInt8}
    (known : pixelBytes format = some pixel) :
    pixel.length ≤ 3 := by
  cases format with
  | rgb =>
      cases known
      decide
  | bgr =>
      cases known
      decide
  | u8 =>
      cases known
      decide
  | unknown =>
      cases known

theorem draws_drawPixel
    {glyph pixel : List UInt8}
    {base offset maxW col : Nat}
    (inRow : col < maxW)
    (baseFits : base + col / 8 ≤ usizeMax)
    (pixelFits : pixel.length ≤ frame.info.bytesPerPixel)
    (rowFits :
      offset + maxW * frame.info.bytesPerPixel ≤ frame.bufferLen) :
    Draws terminal
      (drawPixel frame glyph pixel base offset terminal col) := by
  have cellEnd :
      col * frame.info.bytesPerPixel + frame.info.bytesPerPixel ≤
        maxW * frame.info.bytesPerPixel := by
    rw [← Nat.succ_mul]
    exact Nat.mul_le_mul_right _ inRow
  have bounded := bufferLen_lt_usizeMax frame
  have colFits : col * frame.info.bytesPerPixel ≤ usizeMax := by omega
  unfold drawPixel
  refine Gives.bind_eq (plainAdd_eq baseFits) ?_
  apply (lit_given glyph _ col).bind
  intro isLit _
  apply Gives.ite
  · intro _
    refine Gives.bind_eq (plainMul_eq colFits) ?_
    exact draws_writeBytesAt (by omega)
  · intro _
    exact draws_self

theorem glyphIndex_fits
    (frame : Frame)
    {row col : Nat}
    (inHeight : row < frame.font.height)
    (inWidth : col < frame.font.width) :
    saturatingMul row frame.font.rowBytes + col / 8 ≤ usizeMax := by
  obtain ⟨widthSmall, heightSmall⟩ := Font.small_of_parse frame.parsed
  have rowBytesSmall : frame.font.rowBytes ≤ 2 ^ 30 := by
    have sum := saturatingAdd_le frame.font.width 7
    unfold Font.rowBytes
    omega
  have product :
      row * frame.font.rowBytes ≤ 2 ^ 32 * 2 ^ 30 :=
    Nat.mul_le_mul (by omega) rowBytesSmall
  have saturated := saturatingMul_le row frame.font.rowBytes
  unfold usizeMax
  omega

theorem draws_drawGlyph
    (frame : Frame)
    (terminal : FrameTerminal)
    (character : UInt8)
    (x y : Nat) :
    Draws terminal (drawGlyph frame terminal character x y) := by
  unfold drawGlyph
  apply Font.glyph_given.bind
  intro glyph _
  apply Gives.ite
  · intro _
    exact draws_self
  · intro onScreen
    have inWidth : x ≤ frame.info.width := by omega
    have inHeight : y ≤ frame.info.height := by omega
    refine Gives.bind_eq (plainSub_eq inWidth) ?_
    refine Gives.bind_eq (plainSub_eq inHeight) ?_
    cases known : pixelBytes frame.info.pixelFormat with
    | none =>
        exact draws_self
    | some pixel =>
        apply draws_foldUntil
        intro row inRows stays current
        have rowFits :=
          add_mul_le_of_saturated (bufferLen_lt_usizeMax frame)
            (Nat.le_of_not_lt (of_decide_eq_false stays))
        apply draws_foldlM
        intro col inCols current
        have rowSmall := List.mem_range.mp inRows
        have colSmall := List.mem_range.mp inCols
        have pixelFits : pixel.length ≤ frame.info.bytesPerPixel := by
          have atMost := length_le_of_pixelBytes known
          omega
        exact draws_drawPixel colSmall
          (glyphIndex_fits frame (by omega) (by omega)) pixelFits rowFits

end FrameTerminal

end VibuxOS.Screen
