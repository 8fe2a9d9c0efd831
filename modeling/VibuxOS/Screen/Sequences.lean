import VibuxOS.Screen.Moves

namespace VibuxOS.Screen

open VibuxOS.Lib
open VibuxOS.Lib.Usize

/-!
# Escape sequences keep the cursor on the screen

The commands clamp the cursor to the rows and columns before they set it, restore a
saved cursor that was on the screen, or only draw.  So no sequence, complete or
broken, takes the cursor off the screen, whatever its parameters are.
-/

namespace FrameTerminal

variable
    {frame : Frame}
    {terminal : FrameTerminal}

/-! ## Erasing -/

section

variable
  (frame : Frame)
  (terminal : FrameTerminal)

theorem draws_eraseLineRange
    (start stop : Nat) :
    Draws terminal (eraseLineRange frame terminal start stop) := by
  unfold eraseLineRange
  apply Gives.ite
  · intro _
    exact draws_self
  · intro _
    apply draws_foldlM
    intro column _ current
    exact draws_clearCell frame current _ _

theorem draws_eraseRows
    (first stop : Nat) :
    Draws terminal (eraseRows frame terminal first stop) := by
  apply draws_foldlM
  intro row _ current
  apply draws_foldlM
  intro column _ current
  exact draws_clearCell frame current _ _

theorem draws_eraseDisplayFromCursor :
    Draws terminal (eraseDisplayFromCursor frame terminal) := by
  unfold eraseDisplayFromCursor
  apply (draws_eraseLineRange frame terminal _ _).bind
  intro erased drawn
  exact (draws_eraseRows frame erased _ _).imp fun _ => drawn.trans

theorem draws_eraseDisplayToCursor :
    Draws terminal (eraseDisplayToCursor frame terminal) := by
  unfold eraseDisplayToCursor
  apply (draws_eraseRows frame terminal _ _).bind
  intro erased drawn
  exact (draws_eraseLineRange frame erased _ _).imp fun _ => drawn.trans

end

/-! ## Commands -/

theorem csiParam_given
    (terminal : FrameTerminal)
    {index : Nat}
    (default : Nat)
    (inRange : index < 8) :
    Gives (csiParam terminal index default) fun _ => True := by
  unfold csiParam
  apply Gives.ite
  · intro _
    exact Gives.some trivial
  · intro _
    have value : terminal.csiParams[index]? =
        some terminal.csiParams[index] :=
      Vector.getElem?_eq_getElem inRange
    exact Gives.bind_eq value (Gives.some trivial)

theorem clamped_le
    (frame : Frame)
    (column : Nat) :
    min column (frame.columns - 1) ≤ frame.columns :=
  Nat.le_trans (Nat.min_le_right _ _) (Nat.sub_le _ _)

theorem rowUp_onScreen
    (holds : HoldsACell frame)
    (on : OnScreen frame terminal)
    (amount : Nat) :
    OnScreen frame (rowUp frame terminal amount) where
  cursor :=
    onCell_of_row holds on.cursor.x_le
      (Nat.le_trans (Nat.sub_le _ _) on.cursor.row_le)
  saved := on.saved

theorem rowDown_onScreen
    (holds : HoldsACell frame)
    (on : OnScreen frame terminal)
    (amount : Nat) :
    OnScreen frame (rowDown frame terminal amount) where
  cursor :=
    onCell_of_row holds on.cursor.x_le (Nat.min_le_right _ _)
  saved := on.saved

theorem withX_onScreen
    (on : OnScreen frame terminal)
    {column : Nat}
    (x_le : column ≤ frame.columns) :
    OnScreen frame { terminal with x := column } where
  cursor := on.cursor.withX x_le
  saved := on.saved

theorem csi_given
    {index default : Nat}
    (inRange : index < 8)
    {command : Nat → Option FrameTerminal}
    (keeps : ∀ amount, Gives (command amount) (OnScreen frame)) :
    Gives (csiParam terminal index default >>= command)
      (OnScreen frame) :=
  (csiParam_given terminal default inRange).bind fun amount _ =>
    keeps amount

theorem eraseDisplay_given
    (on : OnScreen frame terminal)
    (part : Nat) :
    Gives
      (if part = 0 then
        eraseDisplayFromCursor frame terminal
      else if part = 1 then
        eraseDisplayToCursor frame terminal
      else if part = 2 ∨ part = 3 then
        clear frame terminal
      else
        some terminal)
      (OnScreen frame) := by
  apply Gives.ite
  · intro _
    exact onScreen_of_draws (draws_eraseDisplayFromCursor frame terminal) on
  intro _
  apply Gives.ite
  · intro _
    exact onScreen_of_draws (draws_eraseDisplayToCursor frame terminal) on
  intro _
  apply Gives.ite
  · intro _
    exact (clear_given frame terminal on.saved).imp fun _ => And.left
  · intro _
    exact Gives.some on

theorem eraseLine_given
    (on : OnScreen frame terminal)
    (part : Nat) :
    Gives
      (if part = 0 then
        eraseLineRange frame terminal terminal.x frame.columns
      else if part = 1 then
        eraseLineRange frame terminal 0 (saturatingAdd terminal.x 1)
      else if part = 2 then
        eraseLineRange frame terminal 0 frame.columns
      else
        some terminal)
      (OnScreen frame) := by
  have erased := fun start stop =>
    onScreen_of_draws (draws_eraseLineRange frame terminal start stop) on
  apply Gives.ite
  · intro _
    exact erased _ _
  intro _
  apply Gives.ite
  · intro _
    exact erased _ _
  intro _
  apply Gives.ite
  · intro _
    exact erased _ _
  · intro _
    exact Gives.some on

theorem finishCsi_given
    (holds : HoldsACell frame)
    (on : OnScreen frame terminal)
    (command : UInt8) :
    Gives (finishCsi frame terminal command) (OnScreen frame) := by
  have isIndex : 0 < 8 := by decide
  unfold finishCsi
  -- The branches are the commands, in the order of the definition.
  apply Gives.ite
  · intro _
    exact csi_given isIndex fun amount =>
      Gives.some (rowUp_onScreen holds on amount)
  intro _
  apply Gives.ite
  · intro _
    exact csi_given isIndex fun amount =>
      Gives.some (rowDown_onScreen holds on amount)
  intro _
  apply Gives.ite
  · intro _
    exact csi_given isIndex fun _ =>
      Gives.some (withX_onScreen on (clamped_le frame _))
  intro _
  apply Gives.ite
  · intro _
    exact csi_given isIndex fun _ =>
      Gives.some (withX_onScreen on
        (Nat.le_trans (Nat.sub_le _ _) on.cursor.x_le))
  intro _
  apply Gives.ite
  · intro _
    exact csi_given isIndex fun amount =>
      Gives.some (withX_onScreen (rowDown_onScreen holds on amount)
        (Nat.zero_le _))
  intro _
  apply Gives.ite
  · intro _
    exact csi_given isIndex fun amount =>
      Gives.some (withX_onScreen (rowUp_onScreen holds on amount)
        (Nat.zero_le _))
  intro _
  apply Gives.ite
  · intro _
    exact csi_given isIndex fun _ =>
      Gives.some (withX_onScreen on (clamped_le frame _))
  intro _
  apply Gives.ite
  · intro _
    exact csi_given isIndex fun _ =>
      Gives.some
        ⟨onCell_of_row holds on.cursor.x_le (Nat.min_le_right _ _),
          on.saved⟩
  intro _
  apply Gives.ite
  · intro _
    refine csi_given isIndex fun row => ?_
    exact csi_given (by decide) fun column =>
      Gives.some
        ⟨onCell_of_row holds (clamped_le frame _) (Nat.min_le_right _ _),
          on.saved⟩
  intro _
  apply Gives.ite
  · intro _
    exact csi_given isIndex fun part => eraseDisplay_given on part
  intro _
  apply Gives.ite
  · intro _
    exact csi_given isIndex fun part => eraseLine_given on part
  intro _
  apply Gives.ite
  · intro _
    exact csi_given isIndex fun _ =>
      onScreen_of_draws (draws_eraseLineRange frame terminal _ _) on
  intro _
  apply Gives.ite
  · intro _
    exact Gives.some ⟨on.cursor, on.cursor⟩
  intro _
  apply Gives.ite
  · intro _
    exact Gives.some ⟨on.saved, on.saved⟩
  · intro _
    exact Gives.some on

/-! ## The state machine -/

theorem pushParam_onScreen
    (on : OnScreen frame terminal) :
    OnScreen frame (pushParam terminal) := by
  unfold pushParam
  split
  · exact ⟨on.cursor, on.saved⟩
  · exact on

theorem escapedByte_onScreen
    (on : OnScreen frame terminal)
    (byte : UInt8) :
    OnScreen frame (escapedByte terminal byte) := by
  unfold escapedByte
  split
  · exact ⟨on.cursor, on.saved⟩
  split
  · exact ⟨on.cursor, on.saved⟩
  split
  · exact ⟨on.cursor, on.cursor⟩
  split
  · exact ⟨on.saved, on.saved⟩
  · exact ⟨on.cursor, on.saved⟩

theorem csiByte_given
    (holds : HoldsACell frame)
    (on : OnScreen frame terminal)
    (byte : UInt8) :
    Gives (csiByte frame terminal byte) (OnScreen frame) := by
  have pushed := pushParam_onScreen on
  unfold csiByte
  apply Gives.ite
  · intro _
    exact Gives.some ⟨on.cursor, on.saved⟩
  intro _
  apply Gives.ite
  · intro _
    exact Gives.some ⟨on.cursor, on.saved⟩
  intro _
  apply Gives.ite
  · intro _
    exact Gives.some ⟨pushed.cursor, pushed.saved⟩
  intro _
  apply Gives.ite
  · intro _
    apply (finishCsi_given holds pushed byte).bind
    intro after onAfter
    exact Gives.some ⟨onAfter.cursor, onAfter.saved⟩
  · intro _
    exact Gives.some ⟨on.cursor, on.saved⟩

end FrameTerminal

end VibuxOS.Screen
