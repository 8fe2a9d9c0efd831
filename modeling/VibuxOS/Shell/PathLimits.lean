import VibuxOS.Shell.PathBuffer

namespace VibuxOS.Shell

open VibuxOS.Storage.Vfs

/-!
# When the path buffer is long enough

The buffer keeps up with the stack of the path as long as every component fits.  One
that does not fit is repaired by a `..` right behind it when a piece of it was
written, and anything is repaired by climbing back to the root.
-/

/-- What the components of a path are. -/
def IsComponent (part : List UInt8) : Prop :=
  IsPart part ∧ part ≠ dot

/-- The buffer behind a list of components. -/
def written (out : List UInt8) (parts : List (List UInt8)) : List UInt8 :=
  parts.foldl (fun out part => normalizePart part out) out

theorem written_append
    (out : List UInt8)
    (before later : List (List UInt8)) :
    written out (before ++ later) = written (written out before) later :=
  List.foldl_append

/-- Whatever does not fit into the path buffer is left again in time. -/
inductive Lasts :
    List (List UInt8) → List (List UInt8) → Prop where
  | done
      {stack : List (List UInt8)} :
      Lasts stack []
  | up
      {stack rest : List (List UInt8)} :
      Lasts stack.dropLast rest →
      Lasts stack (dotDot :: rest)
  | enters
      {stack rest : List (List UInt8)}
      {part : List UInt8} :
      part ≠ dotDot →
      (closedPath (stack ++ [part])).length ≤ pathMax →
      Lasts (stack ++ [part]) rest →
      Lasts stack (part :: rest)
  | undone
      {stack rest : List (List UInt8)}
      {part : List UInt8} :
      part ≠ dotDot →
      (closedPath stack).length + 1 < pathMax →
      Lasts stack rest →
      Lasts stack (part :: dotDot :: rest)
  | restarted
      {stack before later : List (List UInt8)} :
      climb stack before = [] →
      Lasts [] later →
      Lasts stack (before ++ later)

/-- The last component of the path is in the buffer in part only. -/
inductive CutOff : List (List UInt8) → List UInt8 → Prop where
  | intro
      {before : List (List UInt8)}
      {part out : List UInt8} :
      (closedPath before).length + 1 < pathMax →
      pathMax < (closedPath (before ++ [part])).length →
      Shows (before ++ [piece before part]) out →
      CutOff (before ++ [part]) out

/-- The buffer shows fewer components than the path has. -/
def Behind (stack : List (List UInt8)) (out : List UInt8) : Prop :=
  ∃ held, Shows held out ∧ held.length < stack.length

/-- The buffer shows another path. -/
def Astray (stack : List (List UInt8)) (out : List UInt8) : Prop :=
  CutOff stack out ∨ Behind stack out

theorem not_astray_nil
    {out : List UInt8} :
    ¬ Astray [] out := by
  rintro (cut | ⟨held, _, shorter⟩)
  · generalize isEmpty : ([] : List (List UInt8)) = stack at cut
    cases cut
    simp at isEmpty
  · exact Nat.not_lt_zero _ shorter

section Steps

variable
  {stack : List (List UInt8)}
  {part out : List UInt8}

theorem length_piece
    (room : (closedPath stack).length + 1 < pathMax)
    (tooLong : pathMax < (closedPath (stack ++ [part])).length) :
    (closedPath (stack ++ [piece stack part])).length = pathMax := by
  simp only [closedPath_append, closedPath_singleton, piece,
    List.length_append, List.length_cons, List.length_take] at tooLong ⊢
  omega

theorem Shows.name
    (shown : Shows stack out)
    (isComponent : IsComponent part)
    (isName : part ≠ dotDot) :
    ((closedPath (stack ++ [part])).length ≤ pathMax ∧
        Shows (stack ++ [part]) (normalizePart part out)) ∨
      ((closedPath stack).length + 1 < pathMax ∧
        CutOff (stack ++ [part]) (normalizePart part out)) ∨
      Behind (stack ++ [part]) (normalizePart part out) := by
  obtain ⟨isPart, notDot⟩ := isComponent
  by_cases fits : (closedPath (stack ++ [part])).length ≤ pathMax
  · exact .inl ⟨fits, shown.entered isPart notDot isName fits⟩
  rw [Nat.not_le] at fits
  by_cases room : (closedPath stack).length + 1 < pathMax
  · exact .inr (.inl ⟨room, .intro room fits
      (shown.cutOff isPart notDot isName room)⟩)
  · refine .inr (.inr ⟨stack,
      shown.dropped isPart.1 notDot isName (by omega), ?_⟩)
    simp

theorem Behind.step
    (behind : Behind stack out)
    (isComponent : IsComponent part) :
    Behind (enterPart stack part) (normalizePart part out) ∨
      enterPart stack part = [] ∧
        Shows [] (normalizePart part out) := by
  obtain ⟨held, shown, shorter⟩ := behind
  by_cases isUp : part = dotDot
  · subst isUp
    rw [enterPart_dotDot]
    by_cases more : held.dropLast.length < stack.dropLast.length
    · exact .inl ⟨_, shown.up, more⟩
    · rw [List.length_dropLast, List.length_dropLast] at more
      have heldEmpty : held = [] :=
        List.eq_nil_of_length_eq_zero (by omega)
      subst heldEmpty
      refine .inr ⟨List.eq_nil_of_length_eq_zero ?_, shown.up⟩
      rw [List.length_dropLast]
      omega
  · rw [enterPart_name isUp]
    left
    have longer :
        ∀ last : List UInt8,
          (held ++ [last]).length < (stack ++ [part]).length := by
      intro last
      rw [List.length_append, List.length_append]
      exact Nat.add_lt_add_right shorter 1
    rcases shown.name isComponent isUp with
        ⟨_, entered⟩ | ⟨_, cut⟩ | ⟨shorterHeld, heldShown, bound⟩
    · exact ⟨_, entered, longer part⟩
    · generalize same : held ++ [part] = grown at cut
      obtain ⟨_, _, cutShown⟩ := cut
      obtain ⟨rfl, _⟩ := List.append_inj' same rfl
      exact ⟨_, cutShown, longer _⟩
    · exact ⟨shorterHeld, heldShown, bound.trans (longer part)⟩

theorem CutOff.step
    (cut : CutOff stack out)
    (isComponent : IsComponent part) :
    part = dotDot ∧
        Shows stack.dropLast (normalizePart part out) ∨
      part ≠ dotDot ∧
        Behind (stack ++ [part]) (normalizePart part out) := by
  obtain ⟨room, tooLong, shown⟩ := cut
  by_cases isUp : part = dotDot
  · subst isUp
    left
    have shownUp := shown.up
    rw [List.dropLast_concat] at shownUp
    rw [List.dropLast_concat]
    exact ⟨rfl, shownUp⟩
  · refine .inr ⟨isUp, _, shown.dropped isComponent.1.1 isComponent.2 isUp
      ?_, ?_⟩
    · rw [length_piece room tooLong]
      exact Nat.le_succ _
    · simp

theorem shows_or_astray_step
    (known : Shows stack out ∨ Astray stack out)
    (isComponent : IsComponent part) :
    Shows (enterPart stack part) (normalizePart part out) ∨
      Astray (enterPart stack part) (normalizePart part out) := by
  rcases known with shown | cut | behind
  · by_cases isUp : part = dotDot
    · subst isUp
      rw [enterPart_dotDot]
      exact .inl shown.up
    · rw [enterPart_name isUp]
      rcases shown.name isComponent isUp with
          ⟨_, entered⟩ | ⟨_, cut⟩ | behind
      · exact .inl entered
      · exact .inr (.inl cut)
      · exact .inr (.inr behind)
  · rcases cut.step isComponent with ⟨isUp, shown⟩ | ⟨isName, behind⟩
    · subst isUp
      rw [enterPart_dotDot]
      exact .inl shown
    · rw [enterPart_name isName]
      exact .inr (.inr behind)
  · rcases behind.step isComponent with later | ⟨isEmpty, shown⟩
    · exact .inr (.inr later)
    · rw [isEmpty]
      exact .inl shown

end Steps

/-! ## Whole paths -/

variable
  {stack parts : List (List UInt8)}
  {out : List UInt8}

theorem climb_undone
    {part : List UInt8}
    (isName : part ≠ dotDot) :
    climb stack (part :: dotDot :: parts) = climb stack parts := by
  change
    climb (enterPart (enterPart stack part) dotDot) parts =
      climb stack parts
  rw [enterPart_name isName, enterPart_dotDot, List.dropLast_concat]

theorem shows_or_astray
    (known : Shows stack out ∨ Astray stack out)
    (components : ∀ part ∈ parts, IsComponent part) :
    Shows (climb stack parts) (written out parts) ∨
      Astray (climb stack parts) (written out parts) := by
  induction parts generalizing stack out with
  | nil =>
      exact known
  | cons part rest inductionHypothesis =>
      exact inductionHypothesis
        (shows_or_astray_step known (components part (by simp)))
        (fun other member => components other (by simp [member]))

theorem shows_of_climb_nil
    (shown : Shows stack out)
    (components : ∀ part ∈ parts, IsComponent part)
    (atRoot : climb stack parts = []) :
    Shows [] (written out parts) := by
  have known := shows_or_astray (.inl shown) components
  rw [atRoot] at known
  exact known.resolve_right not_astray_nil

/-- Where the buffer is long enough, it shows the path. -/
theorem Lasts.shows
    (lasts : Lasts stack parts)
    (shown : Shows stack out)
    (components : ∀ part ∈ parts, IsComponent part) :
    Shows (climb stack parts) (written out parts) := by
  induction lasts generalizing out with
  | done =>
      exact shown
  | @up stack rest _ inductionHypothesis =>
      have later :=
        inductionHypothesis shown.up
          (fun other member => components other (by simp [member]))
      rw [← enterPart_dotDot] at later
      exact later
  | @enters stack rest part isName fits _ inductionHypothesis =>
      obtain ⟨isPart, notDot⟩ := components part (by simp)
      have later :=
        inductionHypothesis (shown.entered isPart notDot isName fits)
          (fun other member => components other (by simp [member]))
      rw [← enterPart_name isName] at later
      exact later
  | @undone stack rest part isName room _ inductionHypothesis =>
      obtain ⟨isPart, notDot⟩ := components part (by simp)
      have left := (shown.cutOff isPart notDot isName room).up
      rw [List.dropLast_concat] at left
      have later :=
        inductionHypothesis left
          (fun other member => components other (by simp [member]))
      rw [climb_undone isName]
      exact later
  | @restarted stack before later atRoot _ inductionHypothesis =>
      have shownRoot :=
        shows_of_climb_nil shown
          (fun other member => components other (by simp [member])) atRoot
      have behind :=
        inductionHypothesis shownRoot
          (fun other member => components other (by simp [member]))
      rw [climb_append, atRoot, written_append]
      exact behind

theorem Behind.run
    (behind : Behind stack out)
    (components : ∀ part ∈ parts, IsComponent part) :
    Behind (climb stack parts) (written out parts) ∨
      ∃ before later,
        parts = before ++ later ∧
          climb stack before = [] ∧
          Shows [] (written out before) := by
  induction parts generalizing stack out with
  | nil =>
      exact .inl behind
  | cons part rest inductionHypothesis =>
      rcases behind.step (components part (by simp)) with
          still | ⟨atRoot, shown⟩
      · rcases inductionHypothesis still
            (fun other member => components other (by simp [member])) with
            later | ⟨before, later, shape, atRoot, shown⟩
        · exact .inl later
        · exact .inr
            ⟨part :: before, later, by rw [shape, List.cons_append],
              atRoot, shown⟩
      · exact .inr ⟨[part], rest, rfl, atRoot, shown⟩

theorem lasts_or_astray_of_behind
    {front : List (List UInt8)}
    (behind : Behind (climb stack front) (written out front))
    (components : ∀ part ∈ parts, IsComponent part)
    (fromRoot :
      ∀ before later out,
        parts = before ++ later →
        Shows [] out →
        Lasts [] later ∨ Astray (climb [] later) (written out later)) :
    Lasts stack (front ++ parts) ∨
      Astray (climb stack (front ++ parts))
        (written out (front ++ parts)) := by
  rcases behind.run components with
      still | ⟨before, later, shape, atRoot, shown⟩
  · right
    rw [climb_append, written_append]
    exact .inr still
  · have climbed : climb stack (front ++ before) = [] := by
      rw [climb_append, atRoot]
    rw [shape, ← List.append_assoc]
    rcases fromRoot before later _ shape shown with lasts | astray
    · exact .inl (.restarted climbed lasts)
    · rw [climb_append, climbed, written_append, written_append]
      exact .inr astray

/-- Where the buffer is not long enough, it ends up astray. -/
theorem lasts_or_astray
    (shown : Shows stack out)
    (components : ∀ part ∈ parts, IsComponent part) :
    Lasts stack parts ∨
      Astray (climb stack parts) (written out parts) := by
  -- A path that was back at the root goes on with what is left of it.
  induction count : parts.length using Nat.strong_induction_on
    generalizing stack out parts with
  | h length inductionHypothesis =>
      cases parts with
      | nil =>
          exact .inl .done
      | cons part rest =>
          have restComponents :
              ∀ other ∈ rest, IsComponent other :=
            fun other member => components other (by simp [member])
          rw [List.length_cons] at count
          by_cases isUp : part = dotDot
          · subst isUp
            rcases inductionHypothesis _ (by omega) shown.up
                restComponents rfl with lasts | astray
            · exact .inl (.up lasts)
            · rw [← enterPart_dotDot] at astray
              exact .inr astray
          rcases shown.name (components part (by simp)) isUp with
              ⟨fits, entered⟩ | ⟨room, cut⟩ | behind
          · rcases inductionHypothesis _ (by omega) entered
                restComponents rfl with lasts | astray
            · exact .inl (.enters isUp fits lasts)
            · rw [← enterPart_name isUp] at astray
              exact .inr astray
          · cases rest with
            | nil =>
                rw [← enterPart_name isUp] at cut
                exact .inr (.inl cut)
            | cons next behindNext =>
                have nextComponents :
                    ∀ other ∈ behindNext, IsComponent other :=
                  fun other member =>
                    restComponents other (by simp [member])
                rw [List.length_cons] at count
                rcases cut.step (restComponents next (by simp)) with
                    ⟨isUndone, left⟩ | ⟨isName, behind⟩
                · subst isUndone
                  rw [List.dropLast_concat] at left
                  rcases inductionHypothesis _ (by omega) left
                      nextComponents rfl with lasts | astray
                  · exact .inl (.undone isUp room lasts)
                  · rw [climb_undone isUp]
                    exact .inr astray
                · refine @lasts_or_astray_of_behind stack behindNext out
                    [part, next] ?_ nextComponents ?_
                  · rw [← enterPart_name isUp, ← enterPart_name isName]
                      at behind
                    exact behind
                  · intro before later other shape shownRoot
                    rw [shape, List.length_append] at count
                    exact inductionHypothesis _ (by omega) shownRoot
                      (fun member inside =>
                        nextComponents member (by simp [shape, inside]))
                      rfl
          · refine @lasts_or_astray_of_behind stack rest out [part] ?_
              restComponents ?_
            · rw [← enterPart_name isUp] at behind
              exact behind
            · intro before later other shape shownRoot
              rw [shape, List.length_append] at count
              exact inductionHypothesis _ (by omega) shownRoot
                (fun member inside =>
                  restComponents member (by simp [shape, inside]))
                rfl

end VibuxOS.Shell
