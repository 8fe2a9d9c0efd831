import Mathlib.Data.List.Perm.Subperm
import Mathlib.Data.List.Range
import VibuxOS.Lib.Chain
import VibuxOS.Storage.Vfs

namespace VibuxOS.Storage.Vfs

open VibuxOS.Lib

/-!
# The directory tree

The sibling chains of VIBUXFS are linked lists through the inode slots.  The
invariant ties each chain to the `parent` fields: the chain of a directory
lists exactly the inodes that name it as their parent.  `createEntry` adds a
free slot in front of a chain, `remove` takes a childless slot out of its
chain and zeroes it, and a file write keeps all the link fields.
-/

/-- The inode table. -/
abbrev Slots := Nat → Inode

/-- The slot numbers that `read_inode` accepts. -/
def IsSlot (slot : Nat) : Prop :=
  1 ≤ slot ∧ slot ≤ inodeCount

instance (slot : Nat) : Decidable (IsSlot slot) :=
  inferInstanceAs (Decidable (_ ∧ _))

/-- A slot that holds a file or a directory. -/
def Used (slots : Slots) (slot : Nat) : Prop :=
  IsSlot slot ∧ (slots slot).kind ≠ 0

/-- The successor function of the sibling chains. -/
def siblings (slots : Slots) (slot : Nat) : Nat :=
  (slots slot).nextSibling

/-- Following parent fields reaches the root. -/
inductive ReachesRoot (slots : Slots) : Nat → Prop where
  | root :
      ReachesRoot slots rootInode
  | up
      {slot : Nat} :
      ReachesRoot slots (slots slot).parent →
      ReachesRoot slots slot

/-- The invariant of the inode table. -/
structure TreeInvariant (slots : Slots) : Prop where
  rootDirectory :
    (slots rootInode).kind = 2
  rootParent :
    (slots rootInode).parent = 0
  rootSibling :
    (slots rootInode).nextSibling = 0
  freeZero :
    ∀ {slot},
      IsSlot slot →
      (slots slot).kind = 0 →
      slots slot = Inode.zero
  childless :
    ∀ {slot},
      IsSlot slot →
      (slots slot).kind ≠ 2 →
      (slots slot).firstChild = 0
  parentDirectory :
    ∀ {slot},
      Used slots slot →
      slot ≠ rootInode →
      IsSlot (slots slot).parent ∧
        (slots (slots slot).parent).kind = 2
  children :
    ∀ {directory},
      IsSlot directory →
      ∃ cells,
        Chain (siblings slots) (slots directory).firstChild cells ∧
          ∀ slot,
            slot ∈ cells ↔
              Used slots slot ∧
                slot ≠ rootInode ∧
                (slots slot).parent = directory
  reachesRoot :
    ∀ {slot},
      Used slots slot →
      ReachesRoot slots slot

theorem isSlot_root : IsSlot rootInode := by
  decide

theorem IsSlot.ne_zero
    {slot : Nat}
    (isSlot : IsSlot slot) :
    slot ≠ 0 := by
  obtain ⟨lower, _⟩ := isSlot
  omega

theorem length_le_inodeCount
    {cells : List Nat}
    (distinct : cells.Nodup)
    (slots : ∀ cell ∈ cells, IsSlot cell) :
    cells.length ≤ inodeCount := by
  have inside : cells ⊆ List.range' 1 inodeCount := by
    intro cell member
    obtain ⟨lower, upper⟩ := slots cell member
    rw [List.mem_range'_1]
    omega
  have bound := (distinct.subperm inside).length_le
  rwa [List.length_range'] at bound

namespace ReachesRoot

variable {slots after : Slots}

theorem transfer
    (tree : TreeInvariant slots)
    (same :
      ∀ slot, Used slots slot → (after slot).parent = (slots slot).parent)
    {slot : Nat}
    (reaches : ReachesRoot slots slot)
    (used : Used slots slot) :
    ReachesRoot after slot := by
  induction reaches with
  | root =>
      exact .root
  | @up slot above inductionHypothesis =>
      by_cases isRoot : slot = rootInode
      · rw [isRoot]
        exact .root
      · obtain ⟨parentSlot, parentKind⟩ :=
          tree.parentDirectory used isRoot
        have parentUsed : Used slots (slots slot).parent :=
          ⟨parentSlot, by omega⟩
        refine .up ?_
        rw [same slot used]
        exact inductionHypothesis parentUsed

theorem exists_iterate
    {slot : Nat}
    (reaches : ReachesRoot slots slot) :
    ∃ steps,
      (fun cell => (slots cell).parent)^[steps] slot = rootInode := by
  induction reaches with
  | root =>
      exact ⟨0, rfl⟩
  | up _ inductionHypothesis =>
      obtain ⟨steps, arrives⟩ := inductionHypothesis
      exact ⟨steps + 1, arrives⟩

end ReachesRoot

namespace TreeInvariant

variable {slots : Slots}

theorem chain_isSlot
    (tree : TreeInvariant slots)
    {directory : Nat}
    (isSlot : IsSlot directory)
    {cells : List Nat}
    (chain :
      Chain (siblings slots) (slots directory).firstChild cells) :
    ∀ cell ∈ cells, IsSlot cell := by
  obtain ⟨listed, listedChain, members⟩ := tree.children isSlot
  have same := chain.unique listedChain
  intro cell member
  rw [same] at member
  exact ((members cell).mp member).1.1

theorem not_parent_of_childless
    (tree : TreeInvariant slots)
    {target slot : Nat}
    (targetSlot : IsSlot target)
    (targetChildless : (slots target).firstChild = 0)
    (used : Used slots slot)
    (notRoot : slot ≠ rootInode) :
    (slots slot).parent ≠ target := by
  intro same
  obtain ⟨cells, chain, members⟩ := tree.children targetSlot
  rw [targetChildless] at chain
  have member := (members slot).mpr ⟨used, notRoot, same⟩
  rw [chain.eq_nil] at member
  cases member

theorem not_own_parent
    (tree : TreeInvariant slots)
    {slot : Nat}
    (used : Used slots slot)
    (notRoot : slot ≠ rootInode) :
    (slots slot).parent ≠ slot := by
  intro same
  have stays :
      ∀ {cell},
        ReachesRoot slots cell →
        cell = slot →
        False := by
    intro cell cellReaches
    induction cellReaches with
    | root =>
        intro isSlot
        exact notRoot isSlot.symm
    | up _ inductionHypothesis =>
        intro isSlot
        exact inductionHypothesis (by rw [isSlot, same])
  exact stays (tree.reachesRoot used) rfl

end TreeInvariant

variable {slots : Slots}

/-! ## Entering a new inode -/

/-- The table with a new record at the head of a directory's chain. -/
def enter
    (slots : Slots)
    (directory fresh : Nat)
    (record : Inode) :
    Slots :=
  Function.update
    (Function.update slots fresh record)
    directory
    { slots directory with firstChild := fresh }

section Enter

variable
  {directory fresh : Nat}
  {record : Inode}

theorem enter_fields
    {slot : Nat}
    (other : slot ≠ fresh) :
    (enter slots directory fresh record slot).kind =
        (slots slot).kind ∧
      (enter slots directory fresh record slot).parent =
        (slots slot).parent ∧
      (enter slots directory fresh record slot).nextSibling =
        (slots slot).nextSibling ∧
      (enter slots directory fresh record slot).name =
        (slots slot).name := by
  by_cases isDirectory : slot = directory
  · subst slot
    simp [enter]
  · simp [enter, isDirectory, other]

theorem enter_other
    {slot : Nat}
    (notFresh : slot ≠ fresh)
    (notDirectory : slot ≠ directory) :
    enter slots directory fresh record slot = slots slot := by
  simp [enter, notFresh, notDirectory]

theorem enter_fresh
    (different : fresh ≠ directory) :
    enter slots directory fresh record fresh = record := by
  simp [enter, different]

theorem enter_directory :
    (enter slots directory fresh record directory).firstChild =
      fresh := by
  simp [enter]

/-- Entering a free slot at the head of a directory's chain keeps the tree. -/
theorem TreeInvariant.enterKeeps
    (tree : TreeInvariant slots)
    (directorySlot : IsSlot directory)
    (directoryKind : (slots directory).kind = 2)
    (freshSlot : IsSlot fresh)
    (freshFree : (slots fresh).kind = 0)
    (recordKind : record.kind ≠ 0)
    (recordParent : record.parent = directory)
    (recordChild : record.firstChild = 0)
    (recordSibling :
      record.nextSibling = (slots directory).firstChild) :
    TreeInvariant (enter slots directory fresh record) := by
  have different : fresh ≠ directory := by
    intro same
    rw [same] at freshFree
    omega
  have freshNotRoot : fresh ≠ rootInode := by
    intro same
    rw [same, tree.rootDirectory] at freshFree
    omega
  have atFresh :
      enter slots directory fresh record fresh = record :=
    enter_fresh different
  have usedIff :
      ∀ slot,
        Used (enter slots directory fresh record) slot ↔
          slot = fresh ∨ Used slots slot := by
    intro slot
    by_cases isFresh : slot = fresh
    · subst slot
      simp [Used, atFresh, freshSlot, recordKind]
    · simp [Used, isFresh, (enter_fields isFresh).1]
  have rootFields :=
    @enter_fields slots directory fresh record
      rootInode freshNotRoot.symm
  refine {
    rootDirectory := by rw [rootFields.1, tree.rootDirectory]
    rootParent := by rw [rootFields.2.1, tree.rootParent]
    rootSibling := by rw [rootFields.2.2.1, tree.rootSibling]
    freeZero := ?_
    childless := ?_
    parentDirectory := ?_
    children := ?_
    reachesRoot := ?_
  }
  · intro slot isSlot isFree
    have notFresh : slot ≠ fresh := by
      intro same
      rw [same, atFresh] at isFree
      exact recordKind isFree
    have wasFree := isFree
    rw [(enter_fields notFresh).1] at wasFree
    have notDirectory : slot ≠ directory := by
      intro same
      rw [same] at wasFree
      omega
    rw [enter_other notFresh notDirectory]
    exact tree.freeZero isSlot wasFree
  · intro slot isSlot notDirectoryKind
    by_cases isFresh : slot = fresh
    · rw [isFresh, atFresh, recordChild]
    · rw [(enter_fields isFresh).1] at notDirectoryKind
      have notDirectory : slot ≠ directory := by
        intro same
        rw [same] at notDirectoryKind
        exact notDirectoryKind directoryKind
      rw [enter_other isFresh notDirectory]
      exact tree.childless isSlot notDirectoryKind
  · intro slot used notRoot
    rcases (usedIff slot).mp used with isFresh | wasUsed
    · rw [isFresh, atFresh, recordParent,
        (enter_fields different.symm).1]
      exact ⟨directorySlot, directoryKind⟩
    · have notFresh : slot ≠ fresh := by
        intro same
        exact wasUsed.2 (same ▸ freshFree)
      obtain ⟨parentSlot, parentKind⟩ :=
        tree.parentDirectory wasUsed notRoot
      have parentNotFresh : (slots slot).parent ≠ fresh := by
        intro same
        rw [same] at parentKind
        omega
      rw [(enter_fields notFresh).2.1,
        (enter_fields parentNotFresh).1]
      exact ⟨parentSlot, parentKind⟩
  · intro owner ownerSlot
    -- The chains of the old table avoid the free slot, so they survive.
    have oldChain :
        ∀ {start cells},
          Chain (siblings slots) start cells →
          (∀ cell ∈ cells, Used slots cell) →
          Chain (siblings (enter slots directory fresh record))
            start cells := by
      intro start cells chain used
      refine chain.congr ?_
      intro cell member
      have notFresh : cell ≠ fresh := by
        intro same
        exact (used cell member).2 (same ▸ freshFree)
      exact (enter_fields notFresh).2.2.1
    have oldMembers :
        ∀ {slot},
          slot ≠ fresh →
          ((Used (enter slots directory fresh record) slot ∧
              slot ≠ rootInode ∧
              (enter slots directory fresh record slot).parent =
                owner) ↔
            (Used slots slot ∧
              slot ≠ rootInode ∧
              (slots slot).parent = owner)) := by
      intro slot notFresh
      rw [usedIff, (enter_fields notFresh).2.1]
      simp [notFresh]
    obtain ⟨cells, chain, members⟩ := tree.children ownerSlot
    have used : ∀ cell ∈ cells, Used slots cell :=
      fun cell member => ((members cell).mp member).1
    have freshNotMember : fresh ∉ cells :=
      fun member => (used fresh member).2 freshFree
    by_cases isDirectory : owner = directory
    · subst owner
      refine ⟨fresh :: cells, ?_, ?_⟩
      · rw [enter_directory]
        refine (oldChain chain used).cons freshSlot.ne_zero ?_
        rw [siblings, atFresh, recordSibling]
      · intro slot
        by_cases isFresh : slot = fresh
        · subst slot
          simp [usedIff, atFresh, recordParent, freshNotRoot]
        · rw [oldMembers isFresh, ← members slot]
          simp [isFresh]
    · refine ⟨cells, ?_, ?_⟩
      · by_cases isFresh : owner = fresh
        · subst owner
          have noChild : (slots fresh).firstChild = 0 :=
            tree.childless ownerSlot (by omega)
          rw [atFresh, recordChild, ← noChild]
          exact oldChain chain used
        · rw [enter_other isFresh isDirectory]
          exact oldChain chain used
      · intro slot
        by_cases isFresh : slot = fresh
        · subst slot
          simp only [freshNotMember, false_iff, atFresh,
            recordParent]
          rintro ⟨_, _, same⟩
          exact isDirectory same.symm
        · rw [oldMembers isFresh, members slot]
  · intro slot used
    have keepsReaching :
        ∀ {old},
          Used slots old →
          ReachesRoot (enter slots directory fresh record) old := by
      intro old oldUsed
      refine (tree.reachesRoot oldUsed).transfer tree ?_ oldUsed
      intro cell cellUsed
      have notFresh : cell ≠ fresh := by
        intro same
        exact cellUsed.2 (same ▸ freshFree)
      exact (enter_fields notFresh).2.1
    rcases (usedIff slot).mp used with isFresh | wasUsed
    · rw [isFresh]
      refine .up ?_
      rw [atFresh, recordParent]
      exact keepsReaching ⟨directorySlot, by omega⟩
    · exact keepsReaching wasUsed

end Enter

/-! ## Rewriting a record -/

/-- Two records with the same place in the tree. -/
structure SamePlace (first second : Inode) : Prop where
  kind : first.kind = second.kind
  parent : first.parent = second.parent
  firstChild : first.firstChild = second.firstChild
  nextSibling : first.nextSibling = second.nextSibling

theorem TreeInvariant.rewriteKeeps
    (tree : TreeInvariant slots)
    {target : Nat}
    {record : Inode}
    (used : (slots target).kind ≠ 0)
    (place : SamePlace record (slots target)) :
    TreeInvariant (Function.update slots target record) := by
  have same :
      ∀ slot,
        SamePlace
          (Function.update slots target record slot)
          (slots slot) := by
    intro slot
    by_cases isTarget : slot = target
    · subst slot
      simpa using place
    · simp only [Function.update_of_ne isTarget]
      exact ⟨rfl, rfl, rfl, rfl⟩
  have usedIff :
      ∀ slot,
        Used (Function.update slots target record) slot ↔
          Used slots slot := by
    intro slot
    simp [Used, (same slot).kind]
  refine {
    rootDirectory := by rw [(same _).kind, tree.rootDirectory]
    rootParent := by rw [(same _).parent, tree.rootParent]
    rootSibling := by rw [(same _).nextSibling, tree.rootSibling]
    freeZero := ?_
    childless := ?_
    parentDirectory := ?_
    children := ?_
    reachesRoot := ?_
  }
  · intro slot isSlot isFree
    rw [(same slot).kind] at isFree
    have notTarget : slot ≠ target := by
      intro isTarget
      exact used (isTarget ▸ isFree)
    rw [Function.update_of_ne notTarget]
    exact tree.freeZero isSlot isFree
  · intro slot isSlot notDirectory
    rw [(same slot).kind] at notDirectory
    rw [(same slot).firstChild]
    exact tree.childless isSlot notDirectory
  · intro slot slotUsed notRoot
    rw [(same slot).parent, (same _).kind]
    exact tree.parentDirectory ((usedIff slot).mp slotUsed) notRoot
  · intro directory isSlot
    obtain ⟨cells, chain, members⟩ := tree.children isSlot
    refine ⟨cells, ?_, ?_⟩
    · rw [(same directory).firstChild]
      exact chain.congr (fun cell _ => (same cell).nextSibling)
    · intro slot
      rw [usedIff, (same slot).parent]
      exact members slot
  · intro slot slotUsed
    have wasUsed := (usedIff slot).mp slotUsed
    exact (tree.reachesRoot wasUsed).transfer tree
      (fun cell _ => (same cell).parent) wasUsed

/-! ## Removing an inode -/

/--
What `unlink_child` writes when it meets the target behind `previous`, where
`0` stands for the head of the chain.
-/
def detach
    (slots : Slots)
    (directory target previous : Nat) :
    Slots :=
  if previous = 0 then
    Function.update slots directory
      { slots directory with
        firstChild := (slots target).nextSibling }
  else
    Function.update
      (Function.update slots previous
        { slots previous with
          nextSibling := (slots target).nextSibling })
      directory (slots directory)

/-- The predecessor of a cell in a chain, or `0` at its head. -/
def Precedes (previous : Nat) (front : List Nat) : Prop :=
  (previous = 0 ∧ front = []) ∨
    ∃ earlier, front = earlier ++ [previous]

section Detach

variable
  {directory target previous : Nat}

theorem detach_fields
    (slot : Nat) :
    (detach slots directory target previous slot).kind =
        (slots slot).kind ∧
      (detach slots directory target previous slot).parent =
        (slots slot).parent ∧
      (detach slots directory target previous slot).name =
        (slots slot).name := by
  by_cases isDirectory : slot = directory
  · subst slot
    unfold detach
    split <;> simp
  · by_cases isPrevious : slot = previous
    · subst slot
      unfold detach
      split <;> simp [isDirectory]
    · unfold detach
      split <;> simp [isDirectory, isPrevious]

theorem detach_nextSibling
    {slot : Nat}
    (notPrevious : slot ≠ previous) :
    (detach slots directory target previous slot).nextSibling =
      (slots slot).nextSibling := by
  by_cases isDirectory : slot = directory
  · subst slot
    unfold detach
    split <;> simp
  · unfold detach
    split <;> simp [isDirectory, notPrevious]

theorem detach_firstChild
    {slot : Nat}
    (notDirectory : slot ≠ directory) :
    (detach slots directory target previous slot).firstChild =
      (slots slot).firstChild := by
  by_cases isPrevious : slot = previous
  · subst slot
    unfold detach
    split <;> simp [notDirectory]
  · unfold detach
    split <;> simp [notDirectory, isPrevious]

theorem detach_other
    {slot : Nat}
    (notDirectory : slot ≠ directory)
    (notPrevious : slot ≠ previous) :
    detach slots directory target previous slot = slots slot := by
  unfold detach
  split <;> simp [notDirectory, notPrevious]

theorem detach_chain
    {front back : List Nat}
    (previousNotDirectory : previous ≠ directory)
    (notMember : directory ∉ front ++ back)
    (precedes : Precedes previous front)
    (chain :
      Chain (siblings slots) (slots directory).firstChild
        (front ++ target :: back)) :
    Chain
      (siblings (detach slots directory target previous))
      (detach slots directory target previous directory).firstChild
      (front ++ back) := by
  have distinct := chain.nodup
  rcases precedes with ⟨rfl, rfl⟩ | ⟨earlier, rfl⟩
  · have head :
        (detach slots directory target 0 directory).firstChild =
          (slots target).nextSibling := by
      simp [detach]
    rw [head]
    have later : Chain (siblings slots) (slots target).nextSibling back :=
      chain.suffix
    refine later.congr ?_
    intro cell member
    refine detach_nextSibling ?_
    exact later.ne_zero member
  · have notZero : previous ≠ 0 :=
      chain.ne_zero (by simp)
    have head :
        (detach slots directory target previous directory).firstChild =
          (slots directory).firstChild := by
      simp [detach, notZero]
    rw [head]
    simp only [List.append_assoc, List.cons_append,
      List.nil_append] at chain distinct ⊢
    refine chain.unlink ?_ ?_
    · simp [siblings, detach, notZero, previousNotDirectory]
    · intro cell member
      refine detach_nextSibling ?_
      intro isPrevious
      subst cell
      simp only [List.nodup_append, List.nodup_cons,
        List.mem_cons] at distinct
      rcases List.mem_append.mp member with inEarlier | inBack
      · exact distinct.2.2 previous inEarlier previous
          (Or.inl rfl) rfl
      · exact distinct.2.1.1 (Or.inr inBack)

/-- Taking a childless slot out of its chain and zeroing it keeps the tree. -/
theorem TreeInvariant.removeKeeps
    (tree : TreeInvariant slots)
    (targetUsed : Used slots target)
    (targetNotRoot : target ≠ rootInode)
    (targetParent : (slots target).parent = directory)
    (targetChildless : (slots target).firstChild = 0)
    {front back : List Nat}
    (chain :
      Chain (siblings slots) (slots directory).firstChild
        (front ++ target :: back))
    (precedes : Precedes previous front) :
    TreeInvariant
      (Function.update
        (detach slots directory target previous)
        target Inode.zero) := by
  obtain ⟨directorySlot, directoryKind⟩ :=
    tree.parentDirectory targetUsed targetNotRoot
  rw [targetParent] at directorySlot directoryKind
  obtain ⟨listed, listedChain, listedMembers⟩ :=
    tree.children directorySlot
  have members :
      ∀ slot,
        slot ∈ front ++ target :: back ↔
          Used slots slot ∧
            slot ≠ rootInode ∧
            (slots slot).parent = directory := by
    rw [chain.unique listedChain]
    exact listedMembers
  have noChild :
      ∀ slot,
        Used slots slot →
        slot ≠ rootInode →
        (slots slot).parent ≠ target :=
    fun _ => tree.not_parent_of_childless targetUsed.1 targetChildless
  have directoryNotTarget : directory ≠ target := by
    intro same
    exact noChild target targetUsed targetNotRoot
      (targetParent.trans same)
  have previousFacts :
      previous = 0 ∨
        (previous ∈ front ∧
          Used slots previous ∧
          previous ≠ rootInode ∧
          (slots previous).parent = directory) := by
    rcases precedes with ⟨isZero, _⟩ | ⟨earlier, shape⟩
    · exact Or.inl isZero
    · have member : previous ∈ front := by
        simp [shape]
      refine Or.inr ⟨member, (members previous).mp ?_⟩
      exact List.mem_append_left _ member
  have previousNotDirectory : previous ≠ directory := by
    rcases previousFacts with isZero | ⟨_, used, notRoot, parent⟩
    · intro same
      exact directorySlot.ne_zero (same ▸ isZero)
    · intro same
      exact tree.not_own_parent used notRoot (parent.trans same.symm)
  have distinct := chain.nodup
  have targetNotMember : target ∉ front ++ back := by
    have moved := List.nodup_middle.mp distinct
    exact (List.nodup_cons.mp moved).1
  -- A directory on its own chain would be its own parent.
  have directoryNotMember : directory ∉ front ++ back := by
    intro member
    have inChain : directory ∈ front ++ target :: back := by
      simp only [List.mem_append, List.mem_cons] at member ⊢
      rcases member with inFront | inBack
      · exact Or.inl inFront
      · exact Or.inr (Or.inr inBack)
    obtain ⟨used, notRoot, parent⟩ := (members directory).mp inChain
    exact tree.not_own_parent used notRoot parent
  have previousNotTarget : previous ≠ target := by
    rcases previousFacts with isZero | ⟨inFront, _⟩
    · intro same
      exact targetUsed.1.ne_zero (same ▸ isZero)
    · intro same
      exact targetNotMember
        (List.mem_append_left _ (same ▸ inFront))
  have detachedChain :=
    detach_chain previousNotDirectory directoryNotMember
      precedes chain
  let removed :=
    Function.update
      (detach slots directory target previous) target Inode.zero
  have atTarget : removed target = Inode.zero := by
    simp [removed]
  have elsewhere :
      ∀ {slot},
        slot ≠ target →
        removed slot =
          detach slots directory target previous slot := by
    intro slot notTarget
    simp [removed, notTarget]
  have kindParent :
      ∀ {slot},
        slot ≠ target →
        (removed slot).kind = (slots slot).kind ∧
          (removed slot).parent = (slots slot).parent := by
    intro slot notTarget
    rw [elsewhere notTarget]
    exact ⟨(detach_fields slot).1, (detach_fields slot).2.1⟩
  have usedIff :
      ∀ slot,
        Used removed slot ↔ slot ≠ target ∧ Used slots slot := by
    intro slot
    by_cases isTarget : slot = target
    · subst slot
      simp [Used, atTarget, Inode.zero]
    · simp [Used, isTarget, (kindParent isTarget).1]
  change TreeInvariant removed
  have rootFields := kindParent targetNotRoot.symm
  refine {
    rootDirectory := by rw [rootFields.1, tree.rootDirectory]
    rootParent := by rw [rootFields.2, tree.rootParent]
    rootSibling := ?_
    freeZero := ?_
    childless := ?_
    parentDirectory := ?_
    children := ?_
    reachesRoot := ?_
  }
  · have notPrevious : rootInode ≠ previous := by
      rcases previousFacts with isZero | ⟨_, _, notRoot, _⟩
      · intro same
        exact isSlot_root.ne_zero (same.trans isZero)
      · exact notRoot.symm
    rw [elsewhere targetNotRoot.symm,
      detach_nextSibling notPrevious, tree.rootSibling]
  · intro slot isSlot isFree
    by_cases isTarget : slot = target
    · rw [isTarget, atTarget]
    · rw [(kindParent isTarget).1] at isFree
      have notDirectory : slot ≠ directory := by
        intro same
        rw [same] at isFree
        omega
      have notPrevious : slot ≠ previous := by
        rcases previousFacts with isZero | ⟨_, used, _⟩
        · intro same
          exact isSlot.ne_zero (same.trans isZero)
        · intro same
          exact used.2 (same ▸ isFree)
      rw [elsewhere isTarget, detach_other notDirectory notPrevious]
      exact tree.freeZero isSlot isFree
  · intro slot isSlot notDirectoryKind
    by_cases isTarget : slot = target
    · rw [isTarget, atTarget]
      rfl
    · rw [(kindParent isTarget).1] at notDirectoryKind
      have notDirectory : slot ≠ directory := by
        intro same
        rw [same] at notDirectoryKind
        exact notDirectoryKind directoryKind
      rw [elsewhere isTarget, detach_firstChild notDirectory]
      exact tree.childless isSlot notDirectoryKind
  · intro slot used notRoot
    obtain ⟨notTarget, wasUsed⟩ := (usedIff slot).mp used
    obtain ⟨parentSlot, parentKind⟩ :=
      tree.parentDirectory wasUsed notRoot
    rw [(kindParent notTarget).2,
      (kindParent (noChild slot wasUsed notRoot)).1]
    exact ⟨parentSlot, parentKind⟩
  · intro owner ownerSlot
    have memberIff :
        ∀ {slot},
          (Used removed slot ∧
              slot ≠ rootInode ∧
              (removed slot).parent = owner) ↔
            (slot ≠ target ∧
              Used slots slot ∧
              slot ≠ rootInode ∧
              (slots slot).parent = owner) := by
      intro slot
      rw [usedIff]
      by_cases isTarget : slot = target
      · simp [isTarget]
      · rw [(kindParent isTarget).2]
        simp [isTarget]
    by_cases isDirectory : owner = directory
    · subst owner
      refine ⟨front ++ back, ?_, ?_⟩
      · rw [elsewhere directoryNotTarget]
        refine detachedChain.congr ?_
        intro cell member
        have notTarget : cell ≠ target := by
          intro same
          exact targetNotMember (same ▸ member)
        simp only [siblings, elsewhere notTarget]
      · intro slot
        rw [memberIff, ← members slot]
        constructor
        · intro member
          refine ⟨?_, ?_⟩
          · intro same
            exact targetNotMember (same ▸ member)
          · simp only [List.mem_append, List.mem_cons] at member ⊢
            rcases member with inFront | inBack
            · exact Or.inl inFront
            · exact Or.inr (Or.inr inBack)
        · rintro ⟨notTarget, member⟩
          simp only [List.mem_append, List.mem_cons,
            notTarget, false_or] at member ⊢
          exact member
    · obtain ⟨cells, ownerChain, ownerMembers⟩ :=
        tree.children ownerSlot
      have notTarget :
          ∀ cell ∈ cells, cell ≠ target := by
        intro cell member same
        have parent := ((ownerMembers cell).mp member).2.2
        rw [same, targetParent] at parent
        exact isDirectory parent.symm
      refine ⟨cells, ?_, ?_⟩
      · have head :
            (removed owner).firstChild =
              (slots owner).firstChild := by
          by_cases isTarget : owner = target
          · rw [isTarget, atTarget, targetChildless]
            rfl
          · rw [elsewhere isTarget, detach_firstChild isDirectory]
        rw [head]
        refine ownerChain.congr ?_
        intro cell member
        have notPrevious : cell ≠ previous := by
          rcases previousFacts with isZero | ⟨_, _, _, parent⟩
          · intro same
            exact ownerChain.ne_zero member (same.trans isZero)
          · intro same
            have ownParent := ((ownerMembers cell).mp member).2.2
            rw [same, parent] at ownParent
            exact isDirectory ownParent.symm
        simp only [siblings, elsewhere (notTarget cell member)]
        exact detach_nextSibling notPrevious
      · intro slot
        rw [memberIff, ownerMembers slot]
        constructor
        · intro facts
          exact
            ⟨notTarget slot ((ownerMembers slot).mpr facts), facts⟩
        · exact And.right
  · intro slot used
    obtain ⟨_, wasUsed⟩ := (usedIff slot).mp used
    -- Paths to the root pass the target nowhere, as it has no child.
    have keepsReaching :
        ∀ {cell},
          ReachesRoot slots cell →
          Used slots cell →
          cell ≠ target →
          ReachesRoot removed cell := by
      intro cell reaches
      induction reaches with
      | root =>
          intro _ _
          exact .root
      | @up cell _ inductionHypothesis =>
          intro cellUsed notTarget
          by_cases isRoot : cell = rootInode
          · rw [isRoot]
            exact .root
          · obtain ⟨parentSlot, parentKind⟩ :=
              tree.parentDirectory cellUsed isRoot
            refine .up ?_
            rw [(kindParent notTarget).2]
            exact inductionHypothesis
              ⟨parentSlot, by omega⟩
              (noChild cell cellUsed isRoot)
    exact keepsReaching (tree.reachesRoot wasUsed) wasUsed
      ((usedIff slot).mp used).1

end Detach

end VibuxOS.Storage.Vfs
