import VibuxOS.Storage.VfsBitmap

namespace VibuxOS.Storage.Vfs

open VibuxOS.Lib

/-!
# The tree invariant over runs

Every program that changes the inode table keeps the tree invariant: a new
entry enters a free slot, a write rewrites a used slot in place, and `remove`
takes a childless slot out of the chain of its parent.  A formatted disk
satisfies the invariant, so every state of a run does, and a walk along the
chains of such a state ends.
-/

variable
  {candidate : FsMeta} {disk final : Disk}
  (path : List UInt8)

namespace TreeInvariant

/-! ## Steps -/

theorem created
    (tree : TreeInvariant disk.inode)
    {path : List UInt8}
    {cwd kind mode uid gid directory fresh : Nat}
    (checked : Creation disk path cwd directory fresh)
    (kindUsed : kind ≠ 0) :
    TreeInvariant
      (disk.created path kind mode uid gid directory fresh).inode :=
  tree.enterKeeps checked.directorySlot checked.directoryKind
    checked.freshSlot checked.freshFree kindUsed rfl rfl rfl

theorem createEntry_keeps
    (cwd mode uid gid : Nat)
    {kind : Nat}
    (kindUsed : kind ≠ 0) :
    Prog.Keeps (fun disk => TreeInvariant disk.inode)
      (createEntry path cwd kind mode uid gid) := by
  intro disk tree
  constructor
  · intro fresh final returned
    obtain ⟨directory, checked, rfl⟩ := createEntry_eq_ok.mp returned
    exact tree.created checked kindUsed
  · intro error final failed
    rwa [createEntry_eq_err failed]

theorem resolveOrCreate_keeps
    (cwd uid gid : Nat) :
    Prog.Keeps (fun disk => TreeInvariant disk.inode)
      (resolveOrCreate path cwd uid gid) := by
  intro disk tree
  constructor
  · intro ino final returned
    rcases resolveOrCreate_eq_ok returned with
        ⟨_, rfl⟩ | ⟨_, created⟩
    · exact tree
    · exact (createEntry_keeps path cwd 0o644 uid gid
        (by decide) disk tree).1 ino final created
  · intro error final failed
    rwa [resolveOrCreate_eq_err failed]

theorem rewriteFile_keeps
    (ino : Nat)
    (data : List UInt8) :
    Prog.Keeps (fun disk => TreeInvariant disk.inode)
      (rewriteFile candidate ino data) := by
  intro disk tree
  constructor
  · intro _ final returned
    obtain ⟨_, isFile, _⟩ := rewriteFile_eq_ok returned
    obtain ⟨start, count, table⟩ := rewriteFile_table returned
    rw [table]
    exact tree.rewriteKeeps (by omega) ⟨rfl, rfl, rfl, rfl⟩
  · intro error final failed
    by_cases isSlot : IsSlot ino
    · rcases rewriteFile_eq_err isSlot failed with
          ⟨_, _, rfl⟩ | ⟨_, _, _, rfl⟩ | ⟨_, _, _, released, _⟩
      · exact tree
      · exact tree
      · rwa [(releaseBlocks_keepsTable _ _).ok released]
    · rcases (readInode_readOnly _).of_bind_err failed with
          ⟨_, rfl⟩ | ⟨_, read, _⟩
      · exact tree
      · exact (isSlot (readInode_eq_ok.mp read).1).elim

theorem unlinkChild_apply
    (tree : TreeInvariant disk.inode)
    {target : Nat}
    (used : Used disk.inode target)
    (notRoot : target ≠ rootInode) :
    ∃ front back,
      Chain (siblings disk.inode)
          (disk.inode (disk.inode target).parent).firstChild
          (front ++ target :: back) ∧
        unlinkChild (disk.inode target).parent target disk =
          .ok ()
            (disk.detached (disk.inode target).parent target
              (front.getLastD 0)) := by
  obtain ⟨parentSlot, _⟩ := tree.parentDirectory used notRoot
  obtain ⟨cells, chain, members⟩ := tree.children parentSlot
  have areSlots := tree.chain_isSlot parentSlot chain
  have onChain : target ∈ cells :=
    (members target).mpr ⟨used, notRoot, rfl⟩
  obtain ⟨front, back, rfl⟩ := List.append_of_mem onChain
  refine ⟨front, back, chain, ?_⟩
  have bound := length_le_inodeCount chain.nodup areSlots
  have short : front.length < walkFuel := by
    simp only [List.length_append, List.length_cons] at bound
    simp only [walkFuel]
    omega
  unfold unlinkChild
  rw [Prog.bind_of_ok (readInode_of_isSlot parentSlot)]
  exact unlinkFrom_chain chain areSlots (Or.inl rfl) short

theorem remove_target
    (tree : TreeInvariant disk.inode)
    {target : Nat}
    (isSlot : IsSlot target)
    (parentSlot : IsSlot (disk.inode target).parent)
    (mayGo :
      ¬ ((disk.inode target).kind = 2 ∧
        (disk.inode target).firstChild ≠ 0)) :
    Used disk.inode target ∧ (disk.inode target).firstChild = 0 := by
  refine ⟨⟨isSlot, ?_⟩, ?_⟩
  · intro isFree
    rw [tree.freeZero isSlot isFree] at parentSlot
    exact parentSlot.ne_zero rfl
  · by_cases isDirectory : (disk.inode target).kind = 2
    · by_contra hasChild
      exact mayGo ⟨isDirectory, hasChild⟩
    · exact tree.childless isSlot isDirectory

theorem remove_keeps
    (cwd : Nat) :
    Prog.Keeps (fun disk => TreeInvariant disk.inode)
      (remove candidate path cwd) := by
  intro disk tree
  constructor
  · intro _ final returned
    obtain ⟨ino, before, middle, _, notRoot, isSlot, parentSlot, mayGo,
        unlink, released, rfl⟩ := remove_eq_ok returned
    obtain ⟨used, isChildless⟩ :=
      tree.remove_target isSlot parentSlot mayGo
    obtain ⟨front, back, chain, exactly⟩ :=
      tree.unlinkChild_apply used notRoot
    rw [exactly] at unlink
    simp only [Outcome.ok.injEq, true_and] at unlink
    simp only [Disk.zeroed,
      (releaseFile_keepsTable _ _).ok released, ← unlink]
    exact tree.removeKeeps used notRoot rfl isChildless chain
      (precedes_getLastD front)
  · intro error final failed
    rwa [remove_eq_err failed]

/-- Every call keeps the tree, whether it returns or fails. -/
theorem call_keeps
    (call : Call) :
    Prog.Keeps (fun disk => TreeInvariant disk.inode)
      (call.run candidate) := by
  cases call with
  | makeDir path cwd uid gid =>
      exact .bind (createEntry_keeps path cwd _ uid gid (by decide))
        (fun _ => .of_readOnly (.pure _))
  | touch path cwd uid gid =>
      exact .bind (resolveOrCreate_keeps path cwd uid gid)
        (fun _ => .of_readOnly (.pure _))
  | writeFile path cwd data uid gid =>
      exact .bind (resolveOrCreate_keeps path cwd uid gid)
        (fun ino => rewriteFile_keeps ino data)
  | remove path cwd uid gid =>
      exact remove_keeps path cwd

end TreeInvariant

/-! ## Formatting -/

theorem treeInvariant_formatted
    {written : FsMeta}
    (formatted : format candidate Disk.blank = .ok written final) :
    TreeInvariant final.inode := by
  rw [format_table formatted]
  have atRoot :
      Function.update (fun _ => Inode.zero) rootInode rootRecord
          rootInode =
        rootRecord := by
    simp
  have elsewhere :
      ∀ {slot},
        slot ≠ rootInode →
        Function.update (fun _ => Inode.zero) rootInode rootRecord
            slot =
          Inode.zero := by
    intro slot other
    simp [other]
  have onlyRoot :
      ∀ {slot},
        Used (Function.update (fun _ => Inode.zero) rootInode
            rootRecord) slot →
        slot = rootInode := by
    intro slot used
    by_contra other
    exact used.2 (by rw [elsewhere other]; rfl)
  refine {
    rootDirectory := by rw [atRoot]; rfl
    rootParent := by rw [atRoot]; rfl
    rootSibling := by rw [atRoot]; rfl
    freeZero := ?_
    childless := ?_
    parentDirectory := ?_
    children := ?_
    reachesRoot := ?_
  }
  · intro slot _ isFree
    by_cases isRoot : slot = rootInode
    · rw [isRoot, atRoot] at isFree
      cases isFree
    · exact elsewhere isRoot
  · intro slot _ _
    by_cases isRoot : slot = rootInode
    · rw [isRoot, atRoot]
      rfl
    · rw [elsewhere isRoot]
      rfl
  · intro slot used notRoot
    exact (notRoot (onlyRoot used)).elim
  · intro directory _
    refine ⟨[], ?_, ?_⟩
    · by_cases isRoot : directory = rootInode
      · rw [isRoot, atRoot]
        rfl
      · rw [elsewhere isRoot]
        rfl
    · intro slot
      simp only [List.not_mem_nil, false_iff, not_and]
      intro used notRoot
      exact (notRoot (onlyRoot used)).elim
  · intro slot used
    rw [onlyRoot used]
    exact .root

/-! ## Runs -/

theorem ReachableBy.treeInvariant
    {allowed : Disk → Call → Prop}
    (reachable : ReachableBy candidate allowed disk) :
    TreeInvariant disk.inode := by
  induction reachable with
  | formatted formatted =>
      exact treeInvariant_formatted formatted
  | returned call _ _ returned inductionHypothesis =>
      exact
        (TreeInvariant.call_keeps call _ inductionHypothesis).1
          _ _ returned
  | failed call _ _ failed inductionHypothesis =>
      exact
        (TreeInvariant.call_keeps call _ inductionHypothesis).2
          _ _ failed

/-! ## Walks end -/

section

variable
  {fuel child : Nat}
  {cells : List Nat}
  (chain : Chain (siblings disk.inode) child cells)
  (slots : ∀ cell ∈ cells, IsSlot cell)
  (short : cells.length ≤ fuel)

include chain slots short

theorem walkSiblings_ne_hang
    {stop : Inode → Bool} :
    walkSiblings stop fuel child disk ≠ .hang := by
  rw [walkSiblings_chain chain slots short]
  intro stuck
  cases stuck

theorem listSiblings_ne_hang :
    listSiblings fuel child disk ≠ .hang := by
  induction cells generalizing fuel child with
  | nil =>
      obtain rfl : child = 0 := chain
      cases fuel <;> simp [listSiblings]
  | cons first rest inductionHypothesis =>
      obtain ⟨rfl, nonzero, later⟩ := chain
      cases fuel with
      | zero =>
          simp at short
      | succ fuel =>
          have continued :=
            @inductionHypothesis fuel _ later
              (fun cell member => slots cell (by simp [member]))
              (by simpa using short)
          unfold listSiblings
          rw [if_neg nonzero, Prog.bind_of_ok
            (readInode_of_isSlot (slots child (by simp)))]
          intro stuck
          rcases Prog.bind_eq_hang.mp stuck with
              inRest | ⟨_, _, _, behind⟩
          · exact continued inRest
          · cases behind

end

theorem unlinkFrom_ne_hang
    {parentIno childIno fuel current previous : Nat}
    {parent : Inode}
    {cells : List Nat}
    (chain : Chain (siblings disk.inode) current cells)
    (slots : ∀ cell ∈ cells, IsSlot cell)
    (short : cells.length ≤ fuel) :
    unlinkFrom parentIno childIno parent fuel current previous disk ≠
      .hang := by
  induction cells generalizing fuel current previous with
  | nil =>
      obtain rfl : current = 0 := chain
      cases fuel <;> simp [unlinkFrom]
  | cons first rest inductionHypothesis =>
      obtain ⟨rfl, nonzero, later⟩ := chain
      have read :=
        @readInode_of_isSlot disk current (slots current (by simp))
      cases fuel with
      | zero =>
          simp at short
      | succ fuel =>
          unfold unlinkFrom
          rw [if_neg nonzero]
          split
          case isTrue =>
            rw [Prog.bind_of_ok read]
            split
            case isTrue =>
              simp
            case isFalse =>
              intro stuck
              rcases Prog.bind_eq_hang.mp stuck with
                  reading | ⟨_, _, _, writing⟩
              · exact readInode_ne_hang reading
              · cases writing
          case isFalse =>
            rw [Prog.bind_of_ok read]
            exact inductionHypothesis later
              (fun cell member => slots cell (by simp [member]))
              (by simpa using short)

namespace TreeInvariant

section

variable (tree : TreeInvariant disk.inode)

include tree

theorem exists_chain
    {directory : Nat}
    (isSlot : IsSlot directory) :
    ∃ cells,
      Chain (siblings disk.inode) (disk.inode directory).firstChild
          cells ∧
        (∀ cell ∈ cells, IsSlot cell) ∧
        cells.length ≤ walkFuel := by
  obtain ⟨cells, chain, _⟩ := tree.children isSlot
  have areSlots := tree.chain_isSlot isSlot chain
  refine ⟨cells, chain, areSlots, ?_⟩
  have bound := length_le_inodeCount chain.nodup areSlots
  simp only [walkFuel]
  omega

theorem resolvePart_ne_hang
    (part : List UInt8)
    (current : Nat) :
    resolvePart part current disk ≠ .hang := by
  intro stuck
  unfold resolvePart at stuck
  split at stuck
  case isTrue =>
    rcases Prog.bind_eq_hang.mp stuck with
        reading | ⟨_, _, _, later⟩
    · exact readInode_ne_hang reading
    · cases later
  case isFalse =>
    rcases Prog.bind_eq_hang.mp stuck with
        reading | ⟨directory, middle, read, later⟩
    · exact readInode_ne_hang reading
    obtain ⟨isSlot, rfl, rfl⟩ := readInode_eq_ok.mp read
    split at later
    · cases later
    obtain ⟨cells, chain, areSlots, short⟩ := tree.exists_chain isSlot
    rcases Prog.bind_eq_hang.mp later with
        walking | ⟨_, _, _, behind⟩
    · exact walkSiblings_ne_hang chain areSlots short walking
    · split at behind <;> cases behind

theorem resolveParts_ne_hang
    (parts : List (List UInt8))
    (current : Nat) :
    resolveParts parts current disk ≠ .hang := by
  induction parts generalizing current with
  | nil =>
      intro stuck
      cases stuck
  | cons part rest inductionHypothesis =>
      intro stuck
      rcases Prog.bind_eq_hang.mp stuck with
          first | ⟨next, middle, returned, later⟩
      · exact tree.resolvePart_ne_hang part current first
      · obtain rfl := (resolvePart_readOnly _ _).1 returned
        exact inductionHypothesis next later

theorem resolveWith_ne_hang
    (cwd : Nat) :
    resolveWith path cwd disk ≠ .hang := by
  unfold resolveWith
  split
  · intro stuck
    cases stuck
  · split <;> exact tree.resolveParts_ne_hang _ _

theorem list_ne_hang
    (cwd : Nat) :
    list path cwd disk ≠ .hang := by
  intro stuck
  unfold list at stuck
  split at stuck
  · cases stuck
  rcases Prog.bind_eq_hang.mp stuck with
      resolving | ⟨inode, middle, resolved, later⟩
  · exact tree.resolveWith_ne_hang path cwd resolving
  obtain rfl := (resolveWith_readOnly _ _).1 resolved
  rcases Prog.bind_eq_hang.mp later with
      reading | ⟨directory, middle, read, later⟩
  · exact readInode_ne_hang reading
  obtain ⟨isSlot, rfl, rfl⟩ := readInode_eq_ok.mp read
  split at later
  · cases later
  obtain ⟨cells, chain, areSlots, short⟩ := tree.exists_chain isSlot
  exact listSiblings_ne_hang chain areSlots short later

theorem createEntry_ne_hang
    (cwd kind mode uid gid : Nat) :
    createEntry path cwd kind mode uid gid disk ≠ .hang := by
  intro stuck
  unfold createEntry at stuck
  simp only at stuck
  rcases Prog.bind_eq_hang.mp stuck with
      finding | ⟨directory, middle, found, later⟩
  · unfold parentInode at finding
    split at finding
    · cases finding
    · exact tree.resolveWith_ne_hang _ cwd finding
  obtain rfl := (parentInode_readOnly _ _).1 found
  rcases Prog.bind_eq_hang.mp later with
      reading | ⟨parent, middle, read, later⟩
  · exact readInode_ne_hang reading
  obtain ⟨isSlot, rfl, rfl⟩ := readInode_eq_ok.mp read
  split at later
  · cases later
  obtain ⟨cells, chain, areSlots, short⟩ := tree.exists_chain isSlot
  rcases Prog.bind_eq_hang.mp later with
      walking | ⟨duplicate, middle, walked, later⟩
  · exact walkSiblings_ne_hang chain areSlots short walking
  obtain rfl := (walkSiblings_readOnly _ _ _).1 walked
  split at later
  · cases later
  rw [Prog.bind_of_ok
    (firstFree_apply (fun _ => mem_inodeSlots.mp))] at later
  split at later <;> cases later

theorem unlinkChild_ne_hang
    (parentIno childIno : Nat) :
    unlinkChild parentIno childIno disk ≠ .hang := by
  intro stuck
  unfold unlinkChild at stuck
  rcases Prog.bind_eq_hang.mp stuck with
      reading | ⟨parent, middle, read, later⟩
  · exact readInode_ne_hang reading
  obtain ⟨isSlot, rfl, rfl⟩ := readInode_eq_ok.mp read
  obtain ⟨cells, chain, areSlots, short⟩ := tree.exists_chain isSlot
  exact unlinkFrom_ne_hang chain areSlots short later

end

end TreeInvariant

/-! ## The shape of the tree -/

/-- What the link fields of the inode slots say, chain by chain. -/
structure TreeShaped (slots : Slots) : Prop where
  parentDirectory :
    ∀ {slot},
      Used slots slot →
      slot ≠ rootInode →
      IsSlot (slots slot).parent ∧
        (slots (slots slot).parent).kind = 2
  onceOnParentChain :
    ∀ {slot},
      Used slots slot →
      slot ≠ rootInode →
      ∃ cells,
        Chain (siblings slots) (slots (slots slot).parent).firstChild
            cells ∧
          cells.count slot = 1
  onNoOtherChain :
    ∀ {slot directory cells},
      Used slots slot →
      slot ≠ rootInode →
      IsSlot directory →
      directory ≠ (slots slot).parent →
      Chain (siblings slots) (slots directory).firstChild cells →
      slot ∉ cells
  chainsEnd :
    ∀ {slot},
      IsSlot slot →
      (∃ cells, Chain (siblings slots) (slots slot).firstChild cells) ∧
        ∃ cells, Chain (siblings slots) (slots slot).nextSibling cells
  reachesRoot :
    ∀ {slot},
      Used slots slot →
      ∃ steps,
        (fun cell => (slots cell).parent)^[steps] slot = rootInode

theorem TreeInvariant.treeShaped
    {slots : Slots}
    (tree : TreeInvariant slots) :
    TreeShaped slots where
  parentDirectory := tree.parentDirectory
  onceOnParentChain := by
    intro slot used notRoot
    obtain ⟨parentSlot, _⟩ := tree.parentDirectory used notRoot
    obtain ⟨cells, chain, members⟩ := tree.children parentSlot
    exact ⟨cells, chain,
      List.count_eq_one_of_mem chain.nodup
        ((members slot).mpr ⟨used, notRoot, rfl⟩)⟩
  onNoOtherChain := by
    intro slot directory cells _ _ isSlot other chain member
    obtain ⟨listed, listedChain, members⟩ := tree.children isSlot
    rw [chain.unique listedChain] at member
    exact other ((members slot).mp member).2.2.symm
  chainsEnd := by
    intro slot isSlot
    obtain ⟨cells, chain, _⟩ := tree.children isSlot
    refine ⟨⟨cells, chain⟩, ?_⟩
    by_cases isFree : (slots slot).kind = 0
    · rw [tree.freeZero isSlot isFree]
      exact ⟨[], rfl⟩
    · by_cases isRoot : slot = rootInode
      · rw [isRoot, tree.rootSibling]
        exact ⟨[], rfl⟩
      · have used : Used slots slot := ⟨isSlot, isFree⟩
        obtain ⟨parentSlot, _⟩ := tree.parentDirectory used isRoot
        obtain ⟨listed, listedChain, members⟩ :=
          tree.children parentSlot
        exact listedChain.exists_of_mem
          ((members slot).mpr ⟨used, isRoot, rfl⟩)
  reachesRoot := by
    intro slot used
    exact (tree.reachesRoot used).exists_iterate

/--
In every state of a run from a formatted disk the inodes form a tree, and the
walks over its chains terminate, whatever path, inode numbers and ids they are
given.
-/
theorem tree_of_reachable
    (reachable : Reachable candidate disk) :
    TreeShaped disk.inode ∧
      (∀ path cwd, resolveWith path cwd disk ≠ .hang) ∧
      (∀ path cwd, list path cwd disk ≠ .hang) ∧
      (∀ path cwd kind mode uid gid,
        createEntry path cwd kind mode uid gid disk ≠ .hang) ∧
      ∀ parentIno childIno,
        unlinkChild parentIno childIno disk ≠ .hang := by
  have tree := reachable.treeInvariant
  exact ⟨tree.treeShaped, tree.resolveWith_ne_hang, tree.list_ne_hang,
    tree.createEntry_ne_hang, tree.unlinkChild_ne_hang⟩

/-- After `touch f` on a fresh disk, the new file is in the root's chain. -/
theorem tree_of_touched :
    ∃ disk,
      Reachable smallDisk disk ∧
        Used disk.inode 2 ∧
        TreeShaped disk.inode := by
  obtain ⟨fresh, formatted, _⟩ := format_spec geometry_smallDisk
  obtain ⟨after, touched, entered⟩ :=
    touch_formatted (format_table formatted) 0 0
  have reachable : Reachable smallDisk after :=
    .returned (.touch sampleName rootInode 0 0) (.formatted formatted)
      trivial touched
  refine ⟨after, reachable, ?_, (tree_of_reachable reachable).1⟩
  exact ⟨by decide, by rw [entered]; decide⟩

end VibuxOS.Storage.Vfs
