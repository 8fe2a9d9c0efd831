import VibuxOS.Storage.VfsNames

namespace VibuxOS.Storage.Vfs

open VibuxOS.Lib

/-!
# Walks through the tree

A walk over components goes down to a child or up to a parent.  Its text can be
worked out beforehand: a stack of components on which `..` takes the last one
away.  In a tree the walk over the stack that is left ends in the same inode, and
how deep an inode lies says how long such a stack is.
-/

variable {disk : Disk} {slots : Slots}

variable {part : List UInt8}

/-- One component on the stack of a path. -/
def enterPart
    (stack : List (List UInt8))
    (part : List UInt8) :
    List (List UInt8) :=
  if part = dotDot then stack.dropLast else stack ++ [part]

/-- What is left of a stack and the components behind it. -/
def climb
    (stack parts : List (List UInt8)) :
    List (List UInt8) :=
  parts.foldl enterPart stack

theorem enterPart_dotDot
    (stack : List (List UInt8)) :
    enterPart stack dotDot = stack.dropLast :=
  if_pos rfl

theorem enterPart_name
    (isName : part ≠ dotDot)
    (stack : List (List UInt8)) :
    enterPart stack part = stack ++ [part] :=
  if_neg isName

theorem climb_append
    (stack before later : List (List UInt8)) :
    climb stack (before ++ later) = climb (climb stack before) later :=
  List.foldl_append

theorem forall_enterPart
    {property : List UInt8 → Prop}
    {stack : List (List UInt8)}
    (holds : ∀ part ∈ stack, property part)
    {entered : List UInt8}
    (alsoHolds : entered ≠ dotDot → property entered) :
    ∀ part ∈ enterPart stack entered, property part := by
  intro part member
  unfold enterPart at member
  split at member
  case isTrue =>
    exact holds part (List.dropLast_subset stack member)
  case isFalse isName =>
    rcases List.mem_append.mp member with inStack | isNew
    · exact holds part inStack
    · rw [List.mem_singleton.mp isNew]
      exact alsoHolds isName

theorem forall_climb
    {property : List UInt8 → Prop}
    {stack parts : List (List UInt8)}
    (holds : ∀ part ∈ stack, property part)
    (alsoHolds : ∀ part ∈ parts, part ≠ dotDot → property part) :
    ∀ part ∈ climb stack parts, property part := by
  induction parts generalizing stack with
  | nil =>
      exact holds
  | cons part rest inductionHypothesis =>
      exact inductionHypothesis
        (forall_enterPart holds (alsoHolds part (by simp)))
        (fun other member => alsoHolds other (by simp [member]))

/-! ## Going down and up -/

theorem TreeInvariant.child_of_resolvePart
    (tree : TreeInvariant disk.inode)
    {current next : Nat}
    (isName : part ≠ dotDot)
    (resolved : resolvePart part current disk = .ok next disk) :
    Child disk.inode current next ∧
      (disk.inode next).nameSlice = part := by
  obtain ⟨_, isSlot, isUp | ⟨_, _, nonzero, found⟩⟩ :=
    resolvePart_eq_ok.mp resolved
  · exact (isName isUp.1).elim
  obtain ⟨cells, walked, members⟩ := tree.exists_children isSlot
  rw [walked] at found
  cases first :
      cells.find? fun cell =>
        (disk.inode cell).kind != 0 &&
          (disk.inode cell).nameSlice == part with
  | none =>
      rw [first] at found
      cases found
      exact (nonzero rfl).elim
  | some cell =>
      rw [first] at found
      cases found
      have accepted := List.find?_some first
      simp only [Bool.and_eq_true, bne_iff_ne, beq_iff_eq] at accepted
      exact
        ⟨(members _).mp (List.mem_of_find?_eq_some first), accepted.2⟩

theorem resolvePart_of_child
    (tree : TreeInvariant disk.inode)
    {directory child next : Nat}
    (isChild : Child disk.inode directory child)
    (resolved : resolvePart dotDot child disk = .ok next disk) :
    next = directory := by
  obtain ⟨used, notRoot, parent⟩ := isChild
  obtain ⟨_, _, ⟨_, isParent⟩ | isDown⟩ :=
    resolvePart_eq_ok.mp resolved
  · have nonzero : (disk.inode child).parent ≠ 0 :=
      (tree.parentDirectory used notRoot).1.ne_zero
    rw [if_pos nonzero] at isParent
    exact isParent.trans parent
  · exact (isDown.1 rfl).elim

theorem resolvePart_of_root
    (tree : TreeInvariant disk.inode)
    {next : Nat}
    (resolved : resolvePart dotDot rootInode disk = .ok next disk) :
    next = rootInode := by
  obtain ⟨_, _, ⟨_, isParent⟩ | isDown⟩ :=
    resolvePart_eq_ok.mp resolved
  · rwa [if_neg (not_not.mpr tree.rootParent)] at isParent
  · exact (isDown.1 rfl).elim

theorem resolveParts_append_eq_ok
    {front back : List (List UInt8)}
    {current target : Nat} :
    resolveParts (front ++ back) current disk = .ok target disk ↔
      ∃ middle,
        resolveParts front current disk = .ok middle disk ∧
          resolveParts back middle disk = .ok target disk := by
  rw [resolveParts_append, Prog.bind_eq_ok]
  constructor
  · rintro ⟨middle, between, walked, later⟩
    obtain rfl := (resolveParts_readOnly _ _).1 walked
    exact ⟨middle, walked, later⟩
  · rintro ⟨middle, walked, later⟩
    exact ⟨middle, disk, walked, later⟩

theorem resolveParts_cons_eq_ok
    {rest : List (List UInt8)}
    {current target : Nat} :
    resolveParts (part :: rest) current disk = .ok target disk ↔
      ∃ next,
        resolvePart part current disk = .ok next disk ∧
          resolveParts rest next disk = .ok target disk := by
  have step :
      resolveParts (part :: rest) current disk =
        (resolvePart part current >>= resolveParts rest) disk :=
    rfl
  rw [step, Prog.bind_eq_ok]
  constructor
  · rintro ⟨next, between, walked, later⟩
    obtain rfl := (resolvePart_readOnly _ _).1 walked
    exact ⟨next, walked, later⟩
  · rintro ⟨next, walked, later⟩
    exact ⟨next, disk, walked, later⟩

theorem resolveParts_singleton
    {current target : Nat} :
    resolveParts [part] current disk = .ok target disk ↔
      resolvePart part current disk = .ok target disk := by
  rw [resolveParts_cons_eq_ok]
  constructor
  · rintro ⟨next, walked, stayed⟩
    cases stayed
    exact walked
  · intro walked
    exact ⟨target, walked, rfl⟩

/-! ## The stack of a walk -/

theorem TreeInvariant.resolve_enterPart
    (tree : TreeInvariant disk.inode)
    {stack : List (List UInt8)}
    (names : ∀ part ∈ stack, part ≠ dotDot)
    {current next : Nat}
    (reached : resolveParts stack rootInode disk = .ok current disk)
    (resolved : resolvePart part current disk = .ok next disk) :
    resolveParts (enterPart stack part) rootInode disk =
      .ok next disk := by
  by_cases isUp : part = dotDot
  · subst isUp
    rw [enterPart_dotDot]
    rcases List.eq_nil_or_concat stack with isEmpty | ⟨before, last, ends⟩
    · subst isEmpty
      cases reached
      rw [resolvePart_of_root tree resolved]
      rfl
    · rw [ends, List.concat_eq_append] at reached names
      rw [ends, List.concat_eq_append, List.dropLast_concat]
      obtain ⟨directory, walked, entered⟩ :=
        resolveParts_append_eq_ok.mp reached
      obtain ⟨isChild, _⟩ :=
        tree.child_of_resolvePart (names last (by simp))
          (resolveParts_singleton.mp entered)
      rwa [resolvePart_of_child tree isChild resolved]
  · rw [enterPart_name isUp]
    exact resolveParts_append_eq_ok.mpr
      ⟨current, reached, resolveParts_singleton.mpr resolved⟩

theorem TreeInvariant.resolve_climb
    (tree : TreeInvariant disk.inode)
    {stack parts : List (List UInt8)}
    (names : ∀ part ∈ stack, part ≠ dotDot)
    {current target : Nat}
    (reached : resolveParts stack rootInode disk = .ok current disk)
    (resolved : resolveParts parts current disk = .ok target disk) :
    resolveParts (climb stack parts) rootInode disk =
      .ok target disk := by
  induction parts generalizing stack current with
  | nil =>
      cases resolved
      exact reached
  | cons part rest inductionHypothesis =>
      obtain ⟨next, entered, later⟩ :=
        resolveParts_cons_eq_ok.mp resolved
      exact inductionHypothesis
        (forall_enterPart names id)
        (tree.resolve_enterPart names reached entered)
        later

/-! ## Depth -/

/-- An inode and the number of directories above it. -/
inductive Deep (slots : Slots) : Nat → Nat → Prop where
  | root :
      Deep slots rootInode 0
  | child
      {directory child depth : Nat} :
      Child slots directory child →
      Deep slots directory depth →
      Deep slots child (depth + 1)

namespace Deep

theorem unique
    {slot depth other : Nat}
    (deep : Deep slots slot depth)
    (alsoDeep : Deep slots slot other) :
    depth = other := by
  induction deep generalizing other with
  | root =>
      cases alsoDeep with
      | root =>
          rfl
      | child isChild _ =>
          exact (isChild.2.1 rfl).elim
  | child isChild _ inductionHypothesis =>
      cases alsoDeep with
      | root =>
          exact (isChild.2.1 rfl).elim
      | child alsoChild above =>
          obtain rfl := isChild.2.2.symm.trans alsoChild.2.2
          rw [inductionHypothesis above]

theorem up
    (tree : TreeInvariant disk.inode)
    {current next depth : Nat}
    (deep : Deep disk.inode current depth)
    (resolved : resolvePart dotDot current disk = .ok next disk) :
    ∃ above, above ≤ depth ∧ Deep disk.inode next above := by
  cases deep with
  | root =>
      rw [resolvePart_of_root tree resolved]
      exact ⟨0, Nat.le_refl 0, .root⟩
  | child isChild above =>
      rw [resolvePart_of_child tree isChild resolved]
      exact ⟨_, Nat.le_succ _, above⟩

theorem walk
    (tree : TreeInvariant disk.inode)
    {parts : List (List UInt8)}
    {current target depth : Nat}
    (deep : Deep disk.inode current depth)
    (resolved : resolveParts parts current disk = .ok target disk) :
    ∃ below,
      below ≤ depth + parts.length ∧ Deep disk.inode target below := by
  induction parts generalizing current depth with
  | nil =>
      cases resolved
      exact ⟨depth, Nat.le_refl _, deep⟩
  | cons part rest inductionHypothesis =>
      obtain ⟨next, entered, later⟩ :=
        resolveParts_cons_eq_ok.mp resolved
      obtain ⟨between, bound, nextDeep⟩ :
          ∃ between,
            between ≤ depth + 1 ∧ Deep disk.inode next between := by
        by_cases isUp : part = dotDot
        · subst isUp
          obtain ⟨above, bound, aboveDeep⟩ := deep.up tree entered
          exact ⟨above, Nat.le_succ_of_le bound, aboveDeep⟩
        · exact ⟨depth + 1, Nat.le_refl _,
            .child (tree.child_of_resolvePart isUp entered).1 deep⟩
      obtain ⟨below, limit, targetDeep⟩ :=
        inductionHypothesis nextDeep later
      refine ⟨below, ?_, targetDeep⟩
      rw [List.length_cons]
      omega

theorem walk_names
    (tree : TreeInvariant disk.inode)
    {parts : List (List UInt8)}
    (names : ∀ part ∈ parts, part ≠ dotDot)
    {current target depth : Nat}
    (deep : Deep disk.inode current depth)
    (resolved : resolveParts parts current disk = .ok target disk) :
    Deep disk.inode target (depth + parts.length) := by
  induction parts generalizing current depth with
  | nil =>
      cases resolved
      exact deep
  | cons part rest inductionHypothesis =>
      obtain ⟨next, entered, later⟩ :=
        resolveParts_cons_eq_ok.mp resolved
      have isName := names part (by simp)
      have nextDeep : Deep disk.inode next (depth + 1) :=
        .child (tree.child_of_resolvePart isName entered).1 deep
      have targetDeep :=
        inductionHypothesis
          (fun other member => names other (by simp [member]))
          nextDeep later
      rw [List.length_cons]
      have same :
          depth + 1 + rest.length = depth + (rest.length + 1) := by
        omega
      rwa [same] at targetDeep

end Deep

end VibuxOS.Storage.Vfs
