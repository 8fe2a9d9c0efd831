import Mathlib.Data.List.Find
import VibuxOS.Storage.VfsContents
import VibuxOS.Storage.VfsWalks

namespace VibuxOS.Storage.Vfs

open VibuxOS.Lib

/-!
# Tables with the same lookups

A walk asks a table for three things: which slots are directories, what their
parents are, and which entry of a directory a name finds.  Tables that agree on
these resolve every path alike.  That is how a table from which an entry was removed
is compared with the table before: the entry is passed over there.
-/

variable {disk final : Disk}

/-- A lookup takes a cell for a name. -/
def named (disk : Disk) (part : List UInt8) (cell : Nat) : Bool :=
  (disk.inode cell).kind != 0 && (disk.inode cell).nameSlice == part

/-- What looking a name up in a directory returns. -/
def Finds
    (disk : Disk)
    (directory : Nat)
    (part : List UInt8)
    (slot : Nat) : Prop :=
  walkSiblings (fun entry => entry.kind != 0 && entry.nameSlice == part)
      walkFuel (disk.inode directory).firstChild disk =
    .ok slot disk

/-- The chain of a directory, as the walks see it. -/
structure Lists
    (disk : Disk)
    (directory : Nat)
    (cells : List Nat) : Prop where
  chain : Chain (siblings disk.inode) (disk.inode directory).firstChild cells
  areSlots : ∀ cell ∈ cells, IsSlot cell
  short : cells.length ≤ walkFuel

theorem Lists.finds_iff
    {directory : Nat}
    {cells : List Nat}
    (lists : Lists disk directory cells)
    (part : List UInt8)
    (slot : Nat) :
    Finds disk directory part slot ↔
      (cells.find? (named disk part)).getD 0 = slot := by
  unfold Finds
  rw [walkSiblings_chain lists.chain lists.areSlots lists.short]
  constructor
  · intro same
    injection same
  · rintro rfl
    rfl

theorem TreeInvariant.exists_lists
    (tree : TreeInvariant disk.inode)
    {directory : Nat}
    (isSlot : IsSlot directory) :
    ∃ cells, Lists disk directory cells := by
  obtain ⟨cells, chain, areSlots, short⟩ := tree.exists_chain isSlot
  exact ⟨cells, chain, areSlots, short⟩

/-- Two tables that a walk cannot tell apart. -/
structure SameLookups (first second : Disk) : Prop where
  directories :
    ∀ slot, (first.inode slot).kind = 2 ↔ (second.inode slot).kind = 2
  parents :
    ∀ slot, (first.inode slot).parent = (second.inode slot).parent
  lookups :
    ∀ directory part slot,
      IsSlot directory →
      (first.inode directory).kind = 2 →
      (Finds first directory part slot ↔ Finds second directory part slot)

namespace SameLookups

variable {first second : Disk}

theorem of_lists
    (directories :
      ∀ slot, (first.inode slot).kind = 2 ↔ (second.inode slot).kind = 2)
    (parents :
      ∀ slot, (first.inode slot).parent = (second.inode slot).parent)
    (lists :
      ∀ directory,
        IsSlot directory →
        (first.inode directory).kind = 2 →
        ∃ cells otherCells,
          Lists first directory cells ∧
            Lists second directory otherCells ∧
            ∀ part,
              cells.find? (named first part) =
                otherCells.find? (named second part)) :
    SameLookups first second where
  directories := directories
  parents := parents
  lookups := by
    intro directory part slot isSlot isDirectory
    obtain ⟨cells, otherCells, firstLists, secondLists, same⟩ :=
      lists directory isSlot isDirectory
    rw [firstLists.finds_iff, secondLists.finds_iff, same]

section

variable (same : SameLookups first second)

include same

theorem symm :
    SameLookups second first where
  directories := fun slot => (same.directories slot).symm
  parents := fun slot => (same.parents slot).symm
  lookups := fun directory part slot isSlot isDirectory =>
    (same.lookups directory part slot isSlot
      ((same.directories directory).mpr isDirectory)).symm

theorem trans
    {third : Disk}
    (alsoSame : SameLookups second third) :
    SameLookups first third where
  directories := fun slot =>
    (same.directories slot).trans (alsoSame.directories slot)
  parents := fun slot => (same.parents slot).trans (alsoSame.parents slot)
  lookups := fun directory part slot isSlot isDirectory =>
    (same.lookups directory part slot isSlot isDirectory).trans
      (alsoSame.lookups directory part slot isSlot
        ((same.directories directory).mp isDirectory))

theorem resolvePart_iff
    {part : List UInt8}
    {current next : Nat} :
    resolvePart part current first = .ok next first ↔
      resolvePart part current second = .ok next second := by
  rw [resolvePart_eq_ok, resolvePart_eq_ok, same.parents current]
  refine and_congr (by simp) (and_congr_right fun isSlot => ?_)
  refine or_congr_right (and_congr_right fun _ => ?_)
  rw [← same.directories current]
  refine and_congr_right fun isDirectory => and_congr_right fun _ => ?_
  exact same.lookups current part next isSlot isDirectory

theorem resolveParts_iff
    {parts : List (List UInt8)}
    {current target : Nat} :
    resolveParts parts current first = .ok target first ↔
      resolveParts parts current second = .ok target second := by
  induction parts generalizing current with
  | nil =>
      constructor
      · intro stayed
        cases stayed
        rfl
      · intro stayed
        cases stayed
        rfl
  | cons part rest inductionHypothesis =>
      rw [resolveParts_cons_eq_ok, resolveParts_cons_eq_ok]
      refine exists_congr fun next => ?_
      rw [same.resolvePart_iff, inductionHypothesis]

theorem resolveWith_iff
    {path : List UInt8}
    {cwd target : Nat} :
    resolveWith path cwd first = .ok target first ↔
      resolveWith path cwd second = .ok target second := by
  unfold resolveWith
  split
  · constructor
    · intro atRoot
      cases atRoot
      rfl
    · intro atRoot
      cases atRoot
      rfl
  · split
    · exact same.resolveParts_iff
    · exact same.resolveParts_iff

end

end SameLookups

theorem sameLookups_of_sameEntry
    (same : ∀ slot, SameEntry (final.inode slot) (disk.inode slot))
    (exists_lists :
      ∀ directory,
        IsSlot directory →
        (disk.inode directory).kind = 2 →
        ∃ cells, Lists disk directory cells) :
    SameLookups final disk := by
  refine .of_lists (fun slot => by rw [(same slot).kind])
    (fun slot => (same slot).parent) ?_
  intro directory isSlot isDirectory
  rw [(same directory).kind] at isDirectory
  obtain ⟨cells, lists⟩ := exists_lists directory isSlot isDirectory
  refine ⟨cells, cells, ⟨?_, lists.areSlots, lists.short⟩, lists, ?_⟩
  · rw [(same directory).firstChild]
    exact lists.chain.congr fun cell _ => (same cell).nextSibling
  · intro part
    congr 1
    funext cell
    rw [named, named, (same cell).kind, (same cell).name]

/-! ## A table without an entry -/

/-- The table in which a file is passed over. -/
def Disk.without (disk : Disk) (target : Nat) : Disk :=
  { disk with
    inode :=
      Function.update disk.inode target
        { disk.inode target with
          kind := 0
          parent := 0 } }

@[simp] theorem without_self
    (target : Nat) :
    (disk.without target).inode target =
      { disk.inode target with
        kind := 0
        parent := 0 } :=
  Function.update_self _ _ _

theorem without_other
    {target slot : Nat}
    (other : slot ≠ target) :
    (disk.without target).inode slot = disk.inode slot :=
  Function.update_of_ne other _ _

theorem Lists.without
    {directory : Nat}
    {cells : List Nat}
    (lists : Lists disk directory cells)
    (target : Nat) :
    Lists (disk.without target) directory cells where
  chain := by
    have links :
        ∀ slot,
          ((disk.without target).inode slot).firstChild =
              (disk.inode slot).firstChild ∧
            ((disk.without target).inode slot).nextSibling =
              (disk.inode slot).nextSibling := by
      intro slot
      by_cases isTarget : slot = target
      · rw [isTarget, without_self]
        exact ⟨rfl, rfl⟩
      · rw [without_other isTarget]
        exact ⟨rfl, rfl⟩
    rw [(links directory).1]
    exact lists.chain.congr fun cell _ => (links cell).2
  areSlots := lists.areSlots
  short := lists.short

theorem named_without
    (target : Nat)
    (part : List UInt8)
    (cell : Nat) :
    named (disk.without target) part cell =
      (decide (cell ≠ target) && named disk part cell) := by
  by_cases isTarget : cell = target
  · rw [isTarget, named, without_self]
    simp
  · rw [named, without_other isTarget, named]
    simp [isTarget]

theorem SameEntry.symm
    {first second : Inode}
    (same : SameEntry first second) :
    SameEntry second first :=
  ⟨same.kind.symm, same.parent.symm, same.firstChild.symm,
    same.nextSibling.symm, same.name.symm⟩

theorem SameEntry.without
    (same : ∀ slot, SameEntry (final.inode slot) (disk.inode slot))
    (target slot : Nat) :
    SameEntry ((final.without target).inode slot)
      ((disk.without target).inode slot) := by
  by_cases isTarget : slot = target
  · rw [isTarget, without_self, without_self]
    exact
      ⟨rfl, rfl, (same target).firstChild, (same target).nextSibling,
        (same target).name⟩
  · rw [without_other isTarget, without_other isTarget]
    exact same slot

/-! ## Removing an entry -/

section Removed

variable
  {target previous : Nat}
  {front back : List Nat}
  (tree : TreeInvariant disk.inode)
  (isFile : IsFile disk.inode target)
  (notRoot : target ≠ rootInode)
  (chain :
    Chain (siblings disk.inode)
      (disk.inode (disk.inode target).parent).firstChild
      (front ++ target :: back))
  (precedes : Precedes previous front)
  (table :
    final.inode =
      Function.update
        (detach disk.inode (disk.inode target).parent target previous)
        target Inode.zero)

include table in
theorem removed_fields
    {slot : Nat}
    (other : slot ≠ target) :
    (final.inode slot).kind = (disk.inode slot).kind ∧
      (final.inode slot).parent = (disk.inode slot).parent ∧
      (final.inode slot).name = (disk.inode slot).name := by
  rw [table, Function.update_of_ne other]
  exact detach_fields slot

include table in
theorem named_removed
    (part : List UInt8)
    (cell : Nat) :
    named final part cell = named (disk.without target) part cell := by
  rw [named_without]
  by_cases isTarget : cell = target
  · rw [isTarget, named, table, Function.update_self]
    simp [Inode.zero]
  · obtain ⟨kind, _, name⟩ := removed_fields table isTarget
    simp [named, kind, Inode.nameSlice, name, isTarget]

include tree isFile notRoot chain precedes in
theorem previous_facts :
    previous = 0 ∨
      Child disk.inode (disk.inode target).parent previous ∧
        previous ≠ target := by
  rcases precedes with ⟨isZero, _⟩ | ⟨earlier, shape⟩
  · exact .inl isZero
  · right
    have used : Used disk.inode target :=
      ⟨isFile.1, by rw [isFile.2]; decide⟩
    obtain ⟨parentSlot, _⟩ := tree.parentDirectory used notRoot
    obtain ⟨cells, listed, members⟩ := tree.children parentSlot
    have member : previous ∈ front := by
      rw [shape]
      simp
    have inCells : previous ∈ cells := by
      rw [← chain.unique listed]
      exact List.mem_append_left _ member
    refine ⟨(members previous).mp inCells, ?_⟩
    rintro rfl
    have distinct := chain.nodup
    rw [List.nodup_append] at distinct
    exact distinct.2.2 _ member _ (by simp) rfl

include tree isFile notRoot chain precedes table in
theorem lists_removed_parent :
    Lists disk (disk.inode target).parent (front ++ target :: back) ∧
      Lists final (disk.inode target).parent (front ++ back) := by
  have used : Used disk.inode target :=
    ⟨isFile.1, by rw [isFile.2]; decide⟩
  obtain ⟨parentSlot, _⟩ := tree.parentDirectory used notRoot
  obtain ⟨cells, lists⟩ := tree.exists_lists parentSlot
  have isWhole := lists.chain.unique chain
  rw [isWhole] at lists
  obtain ⟨listed, listedChain, members⟩ := tree.children parentSlot
  have isChild :
      ∀ cell ∈ front ++ target :: back,
        Child disk.inode (disk.inode target).parent cell := by
    intro cell member
    rw [chain.unique listedChain] at member
    exact (members cell).mp member
  have distinct := chain.nodup
  have apart : target ∉ front ++ back := by
    intro member
    rw [List.nodup_append, List.nodup_cons] at distinct
    rcases List.mem_append.mp member with inFront | inBack
    · exact distinct.2.2 target inFront target (by simp) rfl
    · exact distinct.2.1.1 inBack
  have notOwn :
      (disk.inode target).parent ∉ front ++ target :: back := by
    intro member
    obtain ⟨ownUsed, ownNotRoot, own⟩ := isChild _ member
    exact tree.not_own_parent ownUsed ownNotRoot own
  have stays :
      ∀ cell ∈ front ++ back, cell ∈ front ++ target :: back := by
    intro cell member
    rcases List.mem_append.mp member with inFront | inBack
    · exact List.mem_append_left _ inFront
    · exact List.mem_append_right _ (List.mem_cons_of_mem _ inBack)
  have previousNotDirectory :
      previous ≠ (disk.inode target).parent := by
    rcases previous_facts tree isFile notRoot chain precedes with
        isZero | ⟨isPrevious, _⟩
    · rw [isZero]
      exact parentSlot.ne_zero.symm
    · intro same
      exact tree.not_own_parent isPrevious.1 isPrevious.2.1
        (isPrevious.2.2.trans same.symm)
  have parentNotTarget : (disk.inode target).parent ≠ target :=
    tree.not_own_parent used notRoot
  have detached :=
    detach_chain previousNotDirectory (fun member => notOwn (stays _ member))
      precedes chain
  refine ⟨lists, ?_, fun cell member => lists.areSlots _ (stays _ member), ?_⟩
  · rw [table, Function.update_of_ne parentNotTarget]
    refine detached.congr fun cell member => ?_
    have notTarget : cell ≠ target := by
      rintro rfl
      exact apart member
    rw [siblings, siblings, Function.update_of_ne notTarget]
  · have short := lists.short
    rw [List.length_append, List.length_cons] at short
    rw [List.length_append]
    omega

include tree isFile notRoot chain precedes table in
theorem lists_removed_other
    {directory : Nat}
    {cells : List Nat}
    (isSlot : IsSlot directory)
    (other : directory ≠ (disk.inode target).parent)
    (notTarget : directory ≠ target)
    (lists : Lists disk directory cells) :
    Lists final directory cells := by
  obtain ⟨listed, listedChain, members⟩ := tree.children isSlot
  refine ⟨?_, lists.areSlots, lists.short⟩
  have head :
      (final.inode directory).firstChild =
        (disk.inode directory).firstChild := by
    rw [table, Function.update_of_ne notTarget, detach_firstChild other]
  rw [head]
  refine lists.chain.congr fun cell member => ?_
  rw [lists.chain.unique listedChain] at member
  obtain ⟨_, _, parent⟩ := (members cell).mp member
  have cellNotTarget : cell ≠ target := by
    rintro rfl
    exact other parent.symm
  have cellNotPrevious : cell ≠ previous := by
    rintro rfl
    rcases previous_facts tree isFile notRoot chain precedes with
        isZero | ⟨isPrevious, _⟩
    · exact listedChain.ne_zero member isZero
    · exact other (parent.symm.trans isPrevious.2.2)
  rw [siblings, siblings, table, Function.update_of_ne cellNotTarget,
    detach_nextSibling cellNotPrevious]

include tree isFile notRoot chain precedes table in
theorem sameLookups_removed :
    SameLookups final (disk.without target) := by
  have kinds :
      ∀ slot,
        (final.inode slot).kind = ((disk.without target).inode slot).kind ∧
          (final.inode slot).parent =
            ((disk.without target).inode slot).parent := by
    intro slot
    by_cases isTarget : slot = target
    · rw [isTarget, without_self, table, Function.update_self]
      exact ⟨rfl, rfl⟩
    · obtain ⟨kind, parent, _⟩ := removed_fields table isTarget
      rw [without_other isTarget]
      exact ⟨kind, parent⟩
  refine .of_lists (fun slot => by rw [(kinds slot).1])
    (fun slot => (kinds slot).2) ?_
  intro directory isSlot isDirectory
  have sameNames :
      ∀ part, named final part = named (disk.without target) part :=
    fun part => funext fun cell => named_removed table part cell
  have notTarget : directory ≠ target := by
    rintro rfl
    rw [(kinds _).1, without_self] at isDirectory
    cases isDirectory
  by_cases isParent : directory = (disk.inode target).parent
  · obtain ⟨before, after⟩ :=
      lists_removed_parent tree isFile notRoot chain precedes table
    rw [isParent]
    refine ⟨_, _, after, before.without target, fun part => ?_⟩
    have passed : ¬ named (disk.without target) part target = true := by
      rw [named_without]
      simp
    rw [sameNames, List.find?_append, List.find?_append,
      List.find?_cons_of_neg passed]
  · obtain ⟨cells, lists⟩ := tree.exists_lists isSlot
    exact ⟨cells, cells,
      lists_removed_other tree isFile notRoot chain precedes table isSlot
        isParent notTarget lists,
      lists.without target, fun part => by rw [sameNames]⟩

end Removed

/-! ## Creating an entry -/

namespace Creation

variable
  {path : List UInt8}
  {cwd uid gid directory fresh : Nat}

/-- The table with an empty file that was created. -/
abbrev made
    (disk : Disk)
    (path : List UInt8)
    (uid gid directory fresh : Nat) : Disk :=
  disk.created path 1 0o644 uid gid directory fresh

theorem made_fields
    {slot : Nat}
    (other : slot ≠ fresh) :
    ((made disk path uid gid directory fresh).inode slot).kind =
        (disk.inode slot).kind ∧
      ((made disk path uid gid directory fresh).inode slot).parent =
        (disk.inode slot).parent ∧
      ((made disk path uid gid directory fresh).inode slot).nextSibling =
        (disk.inode slot).nextSibling ∧
      ((made disk path uid gid directory fresh).inode slot).name =
        (disk.inode slot).name :=
  enter_fields other

section

variable
  (tree : TreeInvariant disk.inode)
  (checked : Creation disk path cwd directory fresh)

include tree checked

theorem not_mem_of_lists
    {owner : Nat}
    {cells : List Nat}
    (isSlot : IsSlot owner)
    (lists : Lists disk owner cells) :
    fresh ∉ cells := by
  obtain ⟨listed, listedChain, members⟩ := tree.children isSlot
  rw [lists.chain.unique listedChain]
  intro member
  exact ((members fresh).mp member).1.2 checked.freshFree

theorem lists_directory
    {cells : List Nat}
    (lists : Lists disk directory cells) :
    Lists (made disk path uid gid directory fresh) directory
      (fresh :: cells) := by
  have apart := checked.not_mem_of_lists tree checked.directorySlot lists
  have longer :
      Chain (siblings (made disk path uid gid directory fresh).inode)
        ((made disk path uid gid directory fresh).inode
          directory).firstChild
        (fresh :: cells) := by
    refine ⟨enter_directory, checked.freshSlot.ne_zero, ?_⟩
    have behind :
        siblings (made disk path uid gid directory fresh).inode fresh =
          (disk.inode directory).firstChild := by
      rw [siblings, checked.created_fresh]
      rfl
    rw [behind]
    refine lists.chain.congr fun cell member => ?_
    have other : cell ≠ fresh := by
      rintro rfl
      exact apart member
    exact (made_fields other).2.2.1
  obtain ⟨listed, madeLists⟩ :=
    (tree.created checked (by decide : 1 ≠ 0)).exists_lists
      checked.directorySlot
  rw [madeLists.chain.unique longer] at madeLists
  exact madeLists

theorem lists_other
    {owner : Nat}
    {cells : List Nat}
    (isSlot : IsSlot owner)
    (notDirectory : owner ≠ directory)
    (notFresh : owner ≠ fresh)
    (lists : Lists disk owner cells) :
    Lists (made disk path uid gid directory fresh) owner cells where
  chain := by
    have apart := checked.not_mem_of_lists tree isSlot lists
    have same :
        (made disk path uid gid directory fresh).inode owner =
          disk.inode owner :=
      enter_other notFresh notDirectory
    rw [same]
    refine lists.chain.congr fun cell member => ?_
    have other : cell ≠ fresh := by
      rintro rfl
      exact apart member
    exact (made_fields other).2.2.1
  areSlots := lists.areSlots
  short := lists.short

end

theorem named_made
    (part : List UInt8)
    {cell : Nat}
    (other : cell ≠ fresh) :
    named (made disk path uid gid directory fresh) part cell =
      named disk part cell := by
  obtain ⟨kind, _, _, name⟩ :=
    @made_fields disk path uid gid directory fresh cell other
  rw [named, named, kind, Inode.nameSlice, Inode.nameSlice, name]

/-- A table with a new entry that is passed over is the old one. -/
theorem sameLookups_made
    (tree : TreeInvariant disk.inode)
    (checked : Creation disk path cwd directory fresh) :
    SameLookups ((made disk path uid gid directory fresh).without fresh)
      disk := by
  have freshZero := tree.freeZero checked.freshSlot checked.freshFree
  have fields :
      ∀ slot,
        (((made disk path uid gid directory fresh).without fresh).inode
              slot).kind =
            (disk.inode slot).kind ∧
          (((made disk path uid gid directory fresh).without fresh).inode
              slot).parent =
            (disk.inode slot).parent := by
    intro slot
    by_cases isFresh : slot = fresh
    · rw [isFresh, without_self, freshZero]
      exact ⟨rfl, rfl⟩
    · rw [without_other isFresh]
      obtain ⟨kind, parent, _⟩ :=
        @made_fields disk path uid gid directory fresh slot isFresh
      exact ⟨kind, parent⟩
  have sameNames :
      ∀ part,
        named ((made disk path uid gid directory fresh).without fresh)
            part =
          named disk part := by
    intro part
    funext cell
    rw [named_without]
    by_cases isFresh : cell = fresh
    · have unused : named disk part fresh = false := by
        rw [named, checked.freshFree]
        rfl
      rw [isFresh, unused]
      simp
    · rw [named_made part isFresh]
      simp [isFresh]
  refine .of_lists (fun slot => by rw [(fields slot).1])
    (fun slot => (fields slot).2) ?_
  intro owner isSlot isDirectory
  rw [(fields owner).1] at isDirectory
  obtain ⟨cells, lists⟩ := tree.exists_lists isSlot
  by_cases isParent : owner = directory
  · subst isParent
    refine ⟨_, cells, (checked.lists_directory tree lists).without fresh,
      lists, fun part => ?_⟩
    rw [sameNames, List.find?_cons_of_neg]
    rw [named, checked.freshFree]
    simp
  · have notFresh : owner ≠ fresh := by
      rintro rfl
      rw [checked.freshFree] at isDirectory
      cases isDirectory
    exact ⟨cells, cells,
      (checked.lists_other tree isSlot isParent notFresh lists).without
        fresh,
      lists, fun part => by rw [sameNames]⟩

/-! ## Walks past a new entry -/

/-- A walk has come to the same slot, or to the new entry instead of a sibling. -/
def Diverts (disk : Disk) (directory fresh first second : Nat) : Prop :=
  (first = second ∧ second ≠ fresh) ∨
    (second = fresh ∧ Child disk.inode directory first)

section

variable (tree : TreeInvariant disk.inode)

include tree

/-- A component keeps the two walks together. -/
theorem diverts_step
    (checked : Creation disk path cwd directory fresh)
    {first second next other : Nat}
    (diverts : Diverts disk directory fresh first second)
    {part : List UInt8}
    (before : resolvePart part first disk = .ok next disk)
    (after :
      resolvePart part second (made disk path uid gid directory fresh) =
        .ok other (made disk path uid gid directory fresh)) :
    Diverts disk directory fresh next other := by
  obtain ⟨_, isSlot, walked⟩ := resolvePart_eq_ok.mp after
  by_cases isUp : part = dotDot
  · subst isUp
    obtain ⟨_, parent⟩ | notUp := walked
    swap
    · exact (notUp.1 rfl).elim
    rcases diverts with ⟨rfl, notFresh⟩ | ⟨rfl, isChild⟩
    · obtain ⟨_, _, ⟨_, nextParent⟩ | notUp⟩ := resolvePart_eq_ok.mp before
      swap
      · exact (notUp.1 rfl).elim
      have sameParent :=
        (@made_fields disk path uid gid directory fresh first
          notFresh).2.1
      rw [sameParent, ← nextParent] at parent
      refine .inl ⟨parent.symm, ?_⟩
      rw [parent, nextParent]
      by_cases hasParent : (disk.inode first).parent = 0
      · rwa [if_neg (not_not.mpr hasParent)]
      · rw [if_pos hasParent]
        rintro isFresh
        have used : Used disk.inode first := by
          refine ⟨isSlot, fun isFree => hasParent ?_⟩
          rw [tree.freeZero isSlot isFree]
          rfl
        have notRoot : first ≠ rootInode := by
          rintro rfl
          exact hasParent tree.rootParent
        have isDirectory := (tree.parentDirectory used notRoot).2
        rw [isFresh, checked.freshFree] at isDirectory
        cases isDirectory
    · have isDirectory := resolvePart_of_child tree isChild before
      rw [checked.created_fresh] at parent
      have hasParent : directory ≠ 0 := checked.directorySlot.ne_zero
      rw [newEntry, if_pos hasParent] at parent
      refine .inl ⟨isDirectory.trans parent.symm, ?_⟩
      rw [parent]
      exact checked.different.symm
  · obtain ⟨isUp', _⟩ | ⟨_, isDirectory, nonzero, found⟩ := walked
    · exact (isUp isUp').elim
    rcases diverts with ⟨rfl, notFresh⟩ | ⟨rfl, isChild⟩
    · obtain ⟨_, _, ⟨isUp', _⟩ | ⟨_, _, _, foundBefore⟩⟩ :=
        resolvePart_eq_ok.mp before
      · exact (isUp isUp').elim
      obtain ⟨isChild, _⟩ := tree.child_of_resolvePart isUp before
      obtain ⟨cells, lists⟩ := tree.exists_lists isSlot
      have apart := checked.not_mem_of_lists tree isSlot lists
      have sameFind :
          cells.find? (named (made disk path uid gid directory fresh) part) =
            cells.find? (named disk part) := by
        refine List.find?_congr fun cell member => ?_
        have notFresh : cell ≠ fresh := by
          rintro rfl
          exact apart member
        exact named_made part notFresh
      have sameAsBefore :
          (cells.find?
              (named (made disk path uid gid directory fresh) part)).getD
                0 = other →
            next = other := by
        intro isOther
        rw [sameFind] at isOther
        rw [← isOther]
        exact ((lists.finds_iff part next).mp foundBefore).symm
      have used : next ≠ fresh := by
        rintro rfl
        exact isChild.1.2 checked.freshFree
      by_cases isParent : first = directory
      · subst isParent
        have result :=
          ((checked.lists_directory tree lists).finds_iff part other).mp
            found
        by_cases diverted :
            named (made disk path uid gid first fresh) part fresh = true
        · rw [List.find?_cons_of_pos diverted] at result
          exact .inr ⟨result.symm, isChild⟩
        · rw [List.find?_cons_of_neg diverted] at result
          have same := sameAsBefore result
          exact .inl ⟨same, same ▸ used⟩
      · have result :=
          ((checked.lists_other tree isSlot isParent notFresh
            lists).finds_iff part other).mp found
        have same := sameAsBefore result
        exact .inl ⟨same, same ▸ used⟩
    · rw [checked.created_fresh] at isDirectory
      cases isDirectory

theorem diverts_run
    (checked : Creation disk path cwd directory fresh)
    {parts : List (List UInt8)}
    {first second target other : Nat}
    (diverts : Diverts disk directory fresh first second)
    (before : resolveParts parts first disk = .ok target disk)
    (after :
      resolveParts parts second
          (made disk path uid gid directory fresh) =
        .ok other (made disk path uid gid directory fresh)) :
    Diverts disk directory fresh target other := by
  induction parts generalizing first second with
  | nil =>
      cases before
      cases after
      exact diverts
  | cons part rest inductionHypothesis =>
      obtain ⟨next, entered, later⟩ :=
        resolveParts_cons_eq_ok.mp before
      obtain ⟨nextAfter, enteredAfter, laterAfter⟩ :=
        resolveParts_cons_eq_ok.mp after
      exact inductionHypothesis
        (checked.diverts_step tree diverts entered enteredAfter)
        later laterAfter

theorem resolveParts_of_free
    {slot : Nat}
    (isSlot : IsSlot slot)
    (isFree : (disk.inode slot).kind = 0)
    {parts : List (List UInt8)}
    {target : Nat}
    (resolved : resolveParts parts slot disk = .ok target disk) :
    target = slot := by
  induction parts with
  | nil =>
      cases resolved
      rfl
  | cons part rest inductionHypothesis =>
      obtain ⟨next, entered, later⟩ :=
        resolveParts_cons_eq_ok.mp resolved
      have stays : next = slot := by
        obtain ⟨_, _, ⟨_, parent⟩ | ⟨_, isDirectory, _⟩⟩ :=
          resolvePart_eq_ok.mp entered
        · rw [tree.freeZero isSlot isFree] at parent
          exact parent
        · rw [isFree] at isDirectory
          cases isDirectory
      rw [stays] at later
      exact inductionHypothesis later

theorem resolve_made
    (checked : Creation disk path cwd directory fresh)
    {other : List UInt8}
    {otherCwd source target : Nat}
    (isFile : IsFile disk.inode source)
    (before : resolveWith other otherCwd disk = .ok source disk)
    (after :
      resolveWith other otherCwd
          (made disk path uid gid directory fresh) =
        .ok target (made disk path uid gid directory fresh)) :
    target = source ∨ target = fresh := by
  have notFresh : source ≠ fresh := by
    rintro rfl
    have kind := isFile.2
    rw [checked.freshFree] at kind
    cases kind
  have rootNotFresh : rootInode ≠ fresh := by
    rintro rfl
    have kind := tree.rootDirectory
    rw [checked.freshFree] at kind
    cases kind
  have together :
      ∀ start parts,
        start ≠ fresh →
        resolveParts parts start disk = .ok source disk →
        resolveParts parts start
            (made disk path uid gid directory fresh) =
          .ok target (made disk path uid gid directory fresh) →
        target = source ∨ target = fresh := by
    intro start parts startNotFresh walked walkedAfter
    rcases checked.diverts_run tree (.inl ⟨rfl, startNotFresh⟩) walked
        walkedAfter with ⟨same, _⟩ | ⟨isFresh, _⟩
    · exact .inl same.symm
    · exact .inr isFresh
  unfold resolveWith at before after
  split at before
  · rename_i isRoot
    rw [if_pos isRoot] at after
    cases before
    cases after
    exact .inl rfl
  · rename_i notRoot
    rw [if_neg notRoot] at after
    split at before
    · rename_i isAbsolute
      rw [if_pos isAbsolute] at after
      exact together _ _ rootNotFresh before after
    · rename_i isRelative
      rw [if_neg isRelative] at after
      refine together _ _ ?_ before after
      rintro rfl
      exact notFresh
        (resolveParts_of_free tree checked.freshSlot checked.freshFree before)

end

end Creation

end VibuxOS.Storage.Vfs
