import Mathlib.Tactic.Ring
import VibuxOS.Screen.Drawing

namespace VibuxOS.Screen

open VibuxOS.Lib
open VibuxOS.Lib.Usize

/-!
# The cursor on the screen

A column may be one past the last (the next character wraps), a row may not.  With
a framebuffer of at least one cell every move keeps this but one: a tab goes to the
next multiple of four without a look at the right edge.
-/

/-- A cell of the screen, or the position behind a row's last cell. -/
structure OnCell (frame : Frame) (x y : Nat) : Prop where
  x_le : x ≤ frame.columns
  y_row : frame.cellH ∣ y
  y_le : y ≤ (frame.rows - 1) * frame.cellH

/-- The cursor and the saved cursor are on the screen. -/
structure OnScreen (frame : Frame) (terminal : FrameTerminal) : Prop where
  cursor : OnCell frame terminal.x terminal.y
  saved : OnCell frame terminal.savedX terminal.savedY

/-- A framebuffer of at least one character cell. -/
structure HoldsACell (frame : Frame) : Prop where
  wide : frame.cellW ≤ frame.info.width
  tall : frame.cellH ≤ frame.info.height

/-! ## Cells and pixels -/

namespace HoldsACell

variable {frame : Frame}

theorem columns_eq (holds : HoldsACell frame) :
    frame.columns = frame.info.width / frame.cellW :=
  Nat.max_eq_left
    (Nat.div_pos holds.wide (Nat.succ_pos frame.font.width))

theorem rows_eq (holds : HoldsACell frame) :
    frame.rows = frame.info.height / frame.cellH :=
  Nat.max_eq_left
    (Nat.div_pos holds.tall (Nat.succ_pos frame.font.height))

theorem rows_mul_le (holds : HoldsACell frame) :
    frame.rows * frame.cellH ≤ frame.info.height := by
  rw [holds.rows_eq]
  exact Nat.div_mul_le_self _ _

end HoldsACell

section Cells

variable {frame : Frame}

theorem columns_pos (frame : Frame) : 0 < frame.columns :=
  Nat.le_max_right _ _

theorem rows_pos (frame : Frame) : 0 < frame.rows :=
  Nat.le_max_right _ _

theorem cellH_pos (frame : Frame) : 0 < frame.cellH :=
  Nat.succ_pos _

theorem onCell_home (frame : Frame) : OnCell frame 0 0 where
  x_le := Nat.zero_le _
  y_row := Nat.dvd_zero _
  y_le := Nat.zero_le _

theorem onCell_of_row
    (holds : HoldsACell frame)
    {x row : Nat}
    (x_le : x ≤ frame.columns)
    (row_le : row ≤ frame.rows - 1) :
    OnCell frame x (saturatingMul row frame.cellH) := by
  have below : row * frame.cellH ≤ (frame.rows - 1) * frame.cellH :=
    Nat.mul_le_mul_right _ row_le
  have lastRow :
      (frame.rows - 1) * frame.cellH ≤ frame.rows * frame.cellH :=
    Nat.mul_le_mul_right _ (Nat.sub_le _ _)
  have fits : row * frame.cellH ≤ usizeMax :=
    Nat.le_trans (Nat.le_trans below lastRow)
      (Nat.le_trans holds.rows_mul_le frame.info.height_le)
  rw [saturatingMul_eq fits]
  exact ⟨x_le, Nat.dvd_mul_left _ _, below⟩

namespace OnCell

variable {x y : Nat}

theorem row_le (cell : OnCell frame x y) :
    y / frame.cellH ≤ frame.rows - 1 :=
  Nat.div_le_of_le_mul (by
    rw [Nat.mul_comm]
    exact cell.y_le)

theorem withX
    (cell : OnCell frame x y)
    {column : Nat}
    (x_le : column ≤ frame.columns) :
    OnCell frame column y :=
  ⟨x_le, cell.y_row, cell.y_le⟩

theorem bottom_le
    (cell : OnCell frame x y)
    (holds : HoldsACell frame) :
    y + frame.cellH ≤ frame.info.height := by
  have last :
      (frame.rows - 1) * frame.cellH + frame.cellH =
        frame.rows * frame.cellH := by
    rw [← Nat.succ_mul, Nat.succ_eq_add_one,
      Nat.sub_add_cancel (rows_pos frame)]
  have rowsFit := holds.rows_mul_le
  have below := cell.y_le
  omega

theorem up
    (cell : OnCell frame x y) :
    OnCell frame x (y - frame.cellH) where
  x_le := cell.x_le
  y_row := Nat.dvd_sub cell.y_row (Nat.dvd_refl _)
  y_le := Nat.le_trans (Nat.sub_le _ _) cell.y_le

/-- The row below, if its cells end above the lower edge. -/
theorem down
    (cell : OnCell frame x y)
    (fits : y + frame.cellH + frame.font.height < frame.info.height) :
    OnCell frame x (y + frame.cellH) where
  x_le := cell.x_le
  y_row := Nat.dvd_add cell.y_row (Nat.dvd_refl _)
  y_le := by
    obtain ⟨row, rfl⟩ := cell.y_row
    have cellEnd :
        (row + 2) * frame.cellH ≤ frame.info.height := by
      have shape :
          (row + 2) * frame.cellH =
            frame.cellH * row + frame.cellH + frame.cellH := by
        ring
      have height : frame.cellH = frame.font.height + 1 := rfl
      omega
    have rowExists : row + 2 ≤ frame.rows :=
      Nat.le_trans
        ((Nat.le_div_iff_mul_le (cellH_pos frame)).mpr cellEnd)
        (Nat.le_max_left _ _)
    calc frame.cellH * row + frame.cellH
        = (row + 1) * frame.cellH := by ring
      _ ≤ (frame.rows - 1) * frame.cellH :=
        Nat.mul_le_mul_right _ (by omega)

end OnCell

/-- Where a character's pixels end before the right edge there is a column. -/
theorem column_lt
    {x : Nat}
    (fits :
      saturatingAdd (saturatingMul x frame.cellW) frame.font.width <
        frame.info.width) :
    x < frame.columns := by
  have widthSmall := frame.info.width_le
  have sum :
      saturatingMul x frame.cellW + frame.font.width < frame.info.width :=
    Nat.lt_of_not_le fun reaches =>
      Nat.not_le.mpr fits ((le_saturatingAdd_iff widthSmall).mpr reaches)
  have product :
      x * frame.cellW ≤ frame.info.width - 1 - frame.font.width :=
    (saturatingMul_le_iff (by omega)).mp (by omega)
  have cellEnd : (x + 1) * frame.cellW ≤ frame.info.width := by
    have width : frame.cellW = frame.font.width + 1 := rfl
    rw [Nat.succ_mul]
    omega
  exact Nat.le_trans
    ((Nat.le_div_iff_mul_le (Nat.succ_pos frame.font.width)).mpr cellEnd)
    (Nat.le_max_left _ _)

end Cells

end VibuxOS.Screen
