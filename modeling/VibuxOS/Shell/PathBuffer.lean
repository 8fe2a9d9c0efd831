import VibuxOS.Shell.NormalizePath

namespace VibuxOS.Shell

open VibuxOS.Storage.Vfs

/-!
# The stack in the path buffer

Entering a component writes as much of it as fits, so the buffer is a prefix of the
path of the longer stack.  Three things can be behind that: the whole component was
written, a first part of it was, or nothing of it was.  In the second case the very
next `..` takes the piece away again; otherwise the buffer shows fewer components
than the path has until both are back at the root.
-/

variable
  {stack : List (List UInt8)}
  {out : List UInt8}

/-- The path of a stack of components, each behind its slash. -/
def closedPath (stack : List (List UInt8)) : List UInt8 :=
  stack.flatMap (slash :: ·)

/-- Bytes between two slashes. -/
def IsPart (part : List UInt8) : Prop :=
  part ≠ [] ∧ slash ∉ part

/-- The buffer shows a stack, with or without a slash at the end. -/
structure Shows (stack : List (List UInt8)) (out : List UInt8) : Prop where
  parts : ∀ part ∈ stack, IsPart part
  short : out.length ≤ pathMax
  bytes :
    (stack ≠ [] ∧ out = closedPath stack) ∨
      out = closedPath stack ++ [slash]

@[simp] theorem closedPath_append
    (front back : List (List UInt8)) :
    closedPath (front ++ back) = closedPath front ++ closedPath back :=
  List.flatMap_append

@[simp] theorem closedPath_singleton
    (part : List UInt8) :
    closedPath [part] = slash :: part := by
  simp [closedPath]

theorem shows_root : Shows [] [slash] where
  parts := fun _ member => nomatch member
  short := by decide
  bytes := Or.inr rfl

/-! ## Going up -/

theorem backToSlash_append
    {part : List UInt8}
    (noSlash : slash ∉ part)
    (front : List UInt8) :
    backToSlash (front ++ slash :: part) = front ++ [slash] := by
  induction part using List.reverseRecOn with
  | nil =>
      rw [backToSlash, if_neg]
      simp
  | append_singleton before byte inductionHypothesis =>
      have notSlash : byte ≠ slash := by
        rintro rfl
        exact noSlash (by simp)
      have shape :
          front ++ slash :: (before ++ [byte]) =
            (front ++ slash :: before) ++ [byte] := by
        simp
      have isLonger :
          1 < ((front ++ slash :: before) ++ [byte]).length := by
        simp only [List.length_append, List.length_cons,
          List.length_nil]
        omega
      rw [shape, backToSlash, List.getLast?_concat,
        if_pos ⟨isLonger, by simpa using notSlash⟩,
        List.dropLast_concat]
      exact inductionHypothesis (fun member => noSlash (by simp [member]))

theorem normalizePart_dotDot
    (shown : Shows stack out) :
    normalizePart dotDot out = closedPath stack.dropLast ++ [slash] := by
  have isUp :
      normalizePart dotDot out =
        if 1 < out.length then backToSlash out.dropLast else out :=
    rfl
  rw [isUp]
  rcases List.eq_nil_or_concat stack with isEmpty | ⟨before, last, ends⟩
  · subst isEmpty
    rcases shown.bytes with ⟨nonempty, _⟩ | atRoot
    · exact (nonempty rfl).elim
    · subst atRoot
      rfl
  · rw [List.concat_eq_append] at ends
    subst ends
    obtain ⟨nonempty, noSlash⟩ := shown.parts last (by simp)
    have someBytes : 0 < last.length :=
      List.length_pos_of_ne_nil nonempty
    rw [List.dropLast_concat]
    rcases shown.bytes with ⟨_, closed⟩ | opened
    · have isLonger : 1 < out.length := by
        rw [closed]
        simp only [closedPath_append, closedPath_singleton,
          List.length_append, List.length_cons]
        omega
      rw [if_pos isLonger, closed, closedPath_append,
        closedPath_singleton,
        List.dropLast_append_of_ne_nil (by simp),
        List.dropLast_cons_of_ne_nil nonempty]
      exact backToSlash_append
        (fun member => noSlash (List.dropLast_subset _ member)) _
    · have isLonger : 1 < out.length := by
        rw [opened]
        simp only [closedPath_append, closedPath_singleton,
          List.length_append, List.length_cons]
        omega
      rw [if_pos isLonger, opened, List.dropLast_concat,
        closedPath_append, closedPath_singleton]
      exact backToSlash_append noSlash _

theorem Shows.up
    (shown : Shows stack out) :
    Shows stack.dropLast (normalizePart dotDot out) := by
  rw [normalizePart_dotDot shown]
  refine ⟨fun part member =>
    shown.parts part (List.dropLast_subset _ member), ?_, Or.inr rfl⟩
  rcases List.eq_nil_or_concat stack with isEmpty | ⟨before, last, ends⟩
  · subst isEmpty
    decide
  · rw [List.concat_eq_append] at ends
    subst ends
    have short := shown.short
    rcases shown.bytes with ⟨_, closed⟩ | opened
    · subst closed
      simp only [closedPath_append, closedPath_singleton,
        List.length_append, List.length_cons] at short
      simp only [List.dropLast_concat, List.length_append,
        List.length_singleton]
      omega
    · subst opened
      simp only [closedPath_append, closedPath_singleton,
        List.length_append, List.length_cons] at short
      simp only [List.dropLast_concat, List.length_append,
        List.length_singleton]
      omega

/-! ## Entering a component -/

theorem getLast?_closedPath
    (parts : ∀ part ∈ stack, IsPart part) :
    (closedPath stack).getLast? ≠ some slash := by
  rcases List.eq_nil_or_concat stack with isEmpty | ⟨before, last, ends⟩
  · subst isEmpty
    simp [closedPath]
  · rw [List.concat_eq_append] at ends
    subst ends
    obtain ⟨nonempty, noSlash⟩ := parts last (by simp)
    have lastByte :
        (closedPath (before ++ [last])).getLast? = last.getLast? := by
      rw [closedPath_append, closedPath_singleton,
        List.getLast?_append_of_ne_nil _ (by simp)]
      obtain ⟨first, rest, shape⟩ := List.exists_cons_of_ne_nil nonempty
      rw [shape, List.getLast?_cons_cons]
    rw [lastByte]
    intro isSlash
    exact noSlash (List.mem_of_getLast? isSlash)

theorem withSlash_eq
    (shown : Shows stack out) :
    (if 1 < out.length ∧ out.getLast? ≠ some slash ∧
          out.length < pathMax then
        out ++ [slash]
      else
        out) =
      (closedPath stack ++ [slash]).take pathMax := by
  have short := shown.short
  rcases shown.bytes with ⟨nonempty, closed⟩ | opened
  · have isLonger : 1 < out.length := by
      obtain ⟨before, last, ends⟩ :=
        (List.eq_nil_or_concat stack).resolve_left nonempty
      rw [List.concat_eq_append] at ends
      have someBytes : 0 < last.length :=
        List.length_pos_of_ne_nil (shown.parts last (by simp [ends])).1
      rw [closed, ends]
      simp only [closedPath_append, closedPath_singleton,
        List.length_append, List.length_cons]
      omega
    have notSlash := getLast?_closedPath shown.parts
    rw [← closed] at notSlash ⊢
    by_cases room : out.length < pathMax
    · rw [if_pos ⟨isLonger, notSlash, room⟩, List.take_of_length_le]
      rw [List.length_append, List.length_singleton]
      omega
    · have isFull : out.length = pathMax := by omega
      rw [if_neg (fun all => room all.2.2), ← isFull, List.take_left]
  · rw [← opened, List.take_of_length_le short, if_neg]
    rintro ⟨_, notSlash, _⟩
    rw [opened, List.getLast?_concat] at notSlash
    exact notSlash rfl

theorem normalizePart_name
    {out part : List UInt8}
    (shown : Shows stack out)
    (nonempty : part ≠ [])
    (notDot : part ≠ dot)
    (isName : part ≠ dotDot) :
    normalizePart part out =
      (closedPath (stack ++ [part])).take pathMax := by
  unfold normalizePart
  rw [if_neg (not_or.mpr ⟨notDot, nonempty⟩), if_neg isName,
    withSlash_eq shown]
  have whole :
      closedPath (stack ++ [part]) = closedPath stack ++ [slash] ++ part := by
    simp
  have room :
      pathMax - ((closedPath stack ++ [slash]).take pathMax).length =
        pathMax - (closedPath stack ++ [slash]).length := by
    rw [List.length_take]
    omega
  rw [whole, @List.take_append _ (closedPath stack ++ [slash]),
    ← room]

theorem Shows.entered
    {out part : List UInt8}
    (shown : Shows stack out)
    (isPart : IsPart part)
    (notDot : part ≠ dot)
    (isName : part ≠ dotDot)
    (fits : (closedPath (stack ++ [part])).length ≤ pathMax) :
    Shows (stack ++ [part]) (normalizePart part out) := by
  rw [normalizePart_name shown isPart.1 notDot isName,
    List.take_of_length_le fits]
  refine ⟨?_, fits, Or.inl ⟨by simp, rfl⟩⟩
  intro other member
  rcases List.mem_append.mp member with inStack | isNew
  · exact shown.parts other inStack
  · rw [List.mem_singleton.mp isNew]
    exact isPart

/-- The piece of a component for which there is room. -/
def piece
    (stack : List (List UInt8))
    (part : List UInt8) :
    List UInt8 :=
  part.take (pathMax - ((closedPath stack).length + 1))

theorem Shows.cutOff
    {out part : List UInt8}
    (shown : Shows stack out)
    (isPart : IsPart part)
    (notDot : part ≠ dot)
    (isName : part ≠ dotDot)
    (room : (closedPath stack).length + 1 < pathMax) :
    Shows (stack ++ [piece stack part]) (normalizePart part out) := by
  have cut :
      normalizePart part out = closedPath (stack ++ [piece stack part]) := by
    rw [normalizePart_name shown isPart.1 notDot isName,
      closedPath_append, closedPath_append, closedPath_singleton,
      closedPath_singleton, List.take_append,
      List.take_of_length_le (by omega : _ ≤ pathMax)]
    have behind :
        pathMax - (closedPath stack).length =
          (pathMax - ((closedPath stack).length + 1)) + 1 := by
      omega
    rw [behind, List.take_succ_cons]
    rfl
  have pieceIsPart : IsPart (piece stack part) := by
    constructor
    · refine List.ne_nil_of_length_pos ?_
      have someBytes : 0 < part.length :=
        List.length_pos_of_ne_nil isPart.1
      rw [piece, List.length_take]
      omega
    · intro member
      exact isPart.2 (List.mem_of_mem_take member)
  refine ⟨?_, ?_, Or.inl ⟨by simp, cut⟩⟩
  · intro other member
    rcases List.mem_append.mp member with inStack | isNew
    · exact shown.parts other inStack
    · rw [List.mem_singleton.mp isNew]
      exact pieceIsPart
  · rw [normalizePart_name shown isPart.1 notDot isName]
    exact List.length_take_le _ _

theorem Shows.dropped
    {out part : List UInt8}
    (shown : Shows stack out)
    (nonempty : part ≠ [])
    (notDot : part ≠ dot)
    (isName : part ≠ dotDot)
    (noRoom : pathMax ≤ (closedPath stack).length + 1) :
    Shows stack (normalizePart part out) := by
  have written := normalizePart_name shown nonempty notDot isName
  have short := shown.short
  refine ⟨shown.parts, ?_, ?_⟩
  · rw [written]
    exact List.length_take_le _ _
  rcases Nat.lt_or_ge (closedPath stack).length pathMax with more | full
  · right
    have oneMore : (closedPath stack ++ [slash]).length = pathMax := by
      rw [List.length_append, List.length_singleton]
      omega
    have whole :
        closedPath (stack ++ [part]) =
          closedPath stack ++ [slash] ++ part := by
      simp
    rw [written, whole, ← oneMore, List.take_left]
  · left
    have isFull : (closedPath stack).length = pathMax := by
      rcases shown.bytes with ⟨_, closed⟩ | opened
      · rw [closed] at short
        omega
      · rw [opened, List.length_append, List.length_singleton] at short
        omega
    refine ⟨?_, ?_⟩
    · rintro rfl
      cases isFull
    · rw [written, closedPath_append, ← isFull, List.take_left]

end VibuxOS.Shell
