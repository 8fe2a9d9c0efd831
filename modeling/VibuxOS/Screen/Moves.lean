import VibuxOS.Screen.OnScreen

namespace VibuxOS.Screen

open VibuxOS.Lib
open VibuxOS.Lib.Usize

/-!
# Moves keep the cursor on the screen

One lemma for each function that moves the cursor: it does not fault, and the cursor
and the saved cursor are on the screen afterwards.  For the tab this is so exactly
when its stop is a column of the screen.
-/

namespace FrameTerminal

variable
    {frame : Frame}
    {terminal : FrameTerminal}

/-! ## What leaves the cursor alone -/

theorem onScreen_of_draws
    {result : Option FrameTerminal}
    (draws : Draws terminal result)
    (on : OnScreen frame terminal) :
    Gives result (OnScreen frame) := by
  apply draws.imp
  rintro _ ⟨buffer, rfl⟩
  exact ⟨on.cursor, on.saved⟩

theorem mirror_onScreen
    (on : OnScreen frame terminal)
    (bytes : List UInt8) :
    OnScreen frame (mirror terminal bytes) := by
  unfold mirror
  split
  · exact ⟨on.cursor, on.saved⟩
  · exact on

@[simp] theorem mirror_x
    (terminal : FrameTerminal)
    (bytes : List UInt8) :
    (mirror terminal bytes).x = terminal.x := by
  unfold mirror
  split
  · rfl
  · rfl

/-! ## Clearing, scrolling and new rows -/

theorem clear_given
    (frame : Frame)
    (terminal : FrameTerminal)
    (saved : OnCell frame terminal.savedX terminal.savedY) :
    Gives (clear frame terminal) fun after =>
      OnScreen frame after ∧ after.x = 0 := by
  have inside : 0 + frame.bufferLen ≤ frame.bufferLen := by omega
  unfold clear
  refine Gives.bind_eq (if_pos inside) (Gives.some ?_)
  exact ⟨⟨onCell_home frame, saved⟩, rfl⟩

theorem scroll_given
    (cursor : OnCell frame terminal.x (terminal.y - frame.cellH))
    (saved : OnCell frame terminal.savedX terminal.savedY) :
    Gives (scroll frame terminal) fun after =>
      OnScreen frame after ∧ after.x ≤ terminal.x := by
  unfold scroll
  apply Gives.ite
  · intro _
    apply (clear_given frame terminal saved).imp
    rintro after ⟨on, isZero⟩
    exact ⟨on, isZero ▸ Nat.zero_le _⟩
  · intro hasMore
    have small := bufferLen_lt_usizeMax frame
    have below := Nat.le_of_lt (Nat.lt_of_not_le hasMore)
    refine Gives.bind_eq (plainSub_eq below) ?_
    refine Gives.bind_eq (plainAdd_eq (by omega)) ?_
    refine Gives.bind_eq
      (if_pos ⟨Nat.le_add_right _ _, by omega, by omega⟩) ?_
    refine Gives.bind_eq (if_pos (by omega)) (Gives.some ?_)
    exact ⟨⟨cursor, saved⟩, Nat.le_refl _⟩

section

variable
  (holds : HoldsACell frame)
  (on : OnScreen frame terminal)

include holds on

theorem newline_given :
    Gives (newline frame terminal) fun after =>
      OnScreen frame after ∧ after.x = 0 := by
  have heightSmall := frame.info.height_le
  have bottom := on.cursor.bottom_le holds
  have home := on.cursor.withX (Nat.zero_le frame.columns)
  have nextRow :
      saturatingAdd terminal.y frame.cellH = terminal.y + frame.cellH :=
    saturatingAdd_eq (by omega)
  unfold newline scrollIfBelow
  rw [nextRow]
  apply Gives.ite
  · intro _
    refine (scroll_given ?_ ?_).imp ?_
    · show OnCell frame 0 (terminal.y + frame.cellH - frame.cellH)
      rw [Nat.add_sub_cancel]
      exact home
    · exact on.saved
    · rintro after ⟨onAfter, atMost⟩
      exact ⟨onAfter, Nat.le_zero.mp atMost⟩
  · intro stays
    rw [le_saturatingAdd_iff heightSmall] at stays
    exact Gives.some
      ⟨⟨home.down (Nat.lt_of_not_le stays), on.saved⟩, rfl⟩

/-! ## Characters -/

theorem wrapIfFull_given :
    Gives (wrapIfFull frame terminal) fun after =>
      OnScreen frame after ∧ after.x < frame.columns := by
  unfold wrapIfFull
  apply Gives.ite
  · intro _
    apply (newline_given holds on).imp
    rintro after ⟨onAfter, isZero⟩
    exact ⟨onAfter, isZero ▸ columns_pos frame⟩
  · intro fits
    exact Gives.some ⟨on, column_lt (Nat.lt_of_not_le fits)⟩

theorem scrollIfBelow_eq :
    scrollIfBelow frame terminal = some terminal := by
  apply if_neg
  rw [le_saturatingAdd_iff frame.info.height_le]
  have bottom := on.cursor.bottom_le holds
  have height : frame.cellH = frame.font.height + 1 := rfl
  omega

theorem putGlyph_given
    (character : UInt8) :
    Gives (putGlyph frame terminal character) (OnScreen frame) := by
  unfold putGlyph
  apply (wrapIfFull_given holds on).bind
  rintro row ⟨onRow, inColumns⟩
  refine Gives.bind_eq (scrollIfBelow_eq holds onRow) ?_
  apply (draws_drawGlyph frame row character _ _).bind
  rintro _ ⟨buffer, rfl⟩
  have advanced : saturatingAdd row.x 1 ≤ frame.columns :=
    Nat.le_trans (saturatingAdd_le _ _) inColumns
  exact Gives.some ⟨onRow.cursor.withX advanced, onRow.saved⟩

end

/-- The stop of a tab. -/
def nextStop (x : Nat) : Nat := (x / 4 + 1) * 4

theorem tab_eq
    (fits : nextStop terminal.x ≤ usizeMax) :
    tab terminal = some { terminal with x := nextStop terminal.x } := by
  have stopFits : terminal.x / 4 + 1 ≤ usizeMax := by
    unfold nextStop at fits
    omega
  unfold tab
  rw [plainAdd_eq stopFits]
  change (plainMul (terminal.x / 4 + 1) 4 >>= _) = _
  rw [plainMul_eq fits]
  rfl

theorem columns_le_usizeMax (frame : Frame) : frame.columns ≤ usizeMax := by
  have width := frame.info.width_le
  have quotient := Nat.div_le_self frame.info.width frame.cellW
  exact Nat.max_le.mpr ⟨Nat.le_trans quotient width, by decide⟩

theorem tab_onScreen_iff
    (on : OnScreen frame terminal) :
    Gives (tab terminal) (OnScreen frame) ↔
      nextStop terminal.x ≤ frame.columns := by
  constructor
  · rintro ⟨after, tabbed, onAfter⟩
    unfold tab at tabbed
    simp only [plainAdd, plainMul, Option.bind_eq_bind,
      Option.bind_eq_some_iff, Option.ite_none_right_eq_some,
      Option.pure_def, Option.some.injEq] at tabbed
    obtain ⟨_, ⟨-, rfl⟩, _, ⟨-, rfl⟩, rfl⟩ := tabbed
    exact onAfter.cursor.x_le
  · intro fits
    have isNumber := Nat.le_trans fits (columns_le_usizeMax frame)
    exact Gives.of_eq (tab_eq isNumber)
      ⟨on.cursor.withX fits, on.saved⟩

/-- The byte is no tab, or a tab that stops on the screen. -/
def TabFits
    (frame : Frame)
    (terminal : FrameTerminal)
    (byte : UInt8) : Prop :=
  byte = 0x09 → nextStop terminal.x ≤ frame.columns

theorem putChar_onScreen_iff
    (holds : HoldsACell frame)
    (on : OnScreen frame terminal)
    (character : UInt8) :
    Gives (putChar frame terminal character) (OnScreen frame) ↔
      TabFits frame terminal character := by
  have onMirrored := mirror_onScreen on (mirrored character)
  unfold putChar TabFits
  by_cases isNewline : character = 0x0A
  · simp only [if_pos isNewline]
    constructor
    · intro _ isTab
      exact absurd (isNewline.symm.trans isTab) (by decide)
    · intro _
      exact (newline_given holds onMirrored).imp fun _ => And.left
  by_cases isReturn : character = 0x0D
  · simp only [if_neg isNewline, if_pos isReturn]
    constructor
    · intro _ isTab
      exact absurd (isReturn.symm.trans isTab) (by decide)
    · intro _
      exact Gives.some
        ⟨onMirrored.cursor.withX (Nat.zero_le _), onMirrored.saved⟩
  by_cases isTab : character = 0x09
  · simp only [if_neg isNewline, if_neg isReturn, if_pos isTab]
    rw [tab_onScreen_iff onMirrored, mirror_x]
    exact ⟨fun fits _ => fits, fun fits => fits isTab⟩
  · simp only [if_neg isNewline, if_neg isReturn, if_neg isTab]
    constructor
    · intro _ same
      exact absurd same isTab
    · intro _
      exact putGlyph_given holds onMirrored character

theorem backspace_given
    (holds : HoldsACell frame)
    (on : OnScreen frame terminal) :
    Gives (backspace frame terminal) (OnScreen frame) := by
  have onMirrored := mirror_onScreen on [0x08, 0x20, 0x08]
  have cell := onMirrored.cursor
  unfold backspace
  apply Gives.ite
  · intro notFirst
    refine Gives.bind_eq (plainSub_eq notFirst) ?_
    apply onScreen_of_draws (draws_clearCell frame _ _ _)
    exact ⟨cell.withX (Nat.le_trans (Nat.sub_le _ _) cell.x_le),
      onMirrored.saved⟩
  · intro _
    apply Gives.ite
    · intro _
      exact Gives.some onMirrored
    · intro hasAbove
      rw [not_or, Nat.not_lt] at hasAbove
      have hasColumns := Nat.pos_of_ne_zero hasAbove.2
      refine Gives.bind_eq (plainSub_eq hasAbove.1) ?_
      refine Gives.bind_eq (plainSub_eq hasColumns) ?_
      apply onScreen_of_draws (draws_clearCell frame _ _ _)
      refine ⟨cell.up.withX ?_, onMirrored.saved⟩
      rw [holds.columns_eq]
      exact Nat.sub_le _ _

end FrameTerminal

end VibuxOS.Screen
