import VibuxOS.Storage.VfsNamespace

namespace VibuxOS.Storage.Vfs

open VibuxOS.Lib

/-!
# Calls on the files that a disk shows

Creating, rewriting and removing an entry changes the tree that a disk shows in one
place.  So each of the calls answers as it does on the tree, and every run of them
follows the tree from the empty root of a formatted disk on.
-/

variable
  {candidate : FsMeta}
  {disk final : Disk}
  {slots : Slots}
  {files : Files}
  {here path : Path}

/-! ## What stays -/

theorem node_congr
    {slot : Nat}
    (same : SameContents (final.inode slot) (disk.inode slot))
    (bytes :
      (disk.inode slot).kind ≠ 2 →
      ∀ index,
        index < (disk.inode slot).size →
        final.bytes (blockBytes (disk.inode slot).startBlock + index) =
          disk.bytes (blockBytes (disk.inode slot).startBlock + index)) :
    final.node slot = disk.node slot := by
  unfold Disk.node Disk.contents
  rw [same.kind, same.size, same.startBlock]
  split
  · rfl
  · rename_i other
    rw [window_eq_iff.mpr (bytes other)]

theorem At.mono
    {after : Slots}
    (same :
      ∀ directory slot,
        Child slots directory slot →
        Child after directory slot ∧
          (after slot).nameSlice = (slots slot).nameSlice)
    {slot : Nat}
    (reached : At slots path slot) :
    At after path slot := by
  induction reached with
  | root => exact .root
  | child _ isChild inductionHypothesis =>
      obtain ⟨stays, sameName⟩ := same _ _ isChild
      rw [← sameName]
      exact .child inductionHypothesis stays

/-! ## New entries -/

section Entering

variable
  {text : List UInt8}
  {cwd directory fresh : Nat}
  (settled : Settled candidate disk)
  (entered : Entered disk final text cwd directory fresh)
  (fits : NameFits (splitParent text).2)

include settled entered fits

theorem Entered.at_iff
    {slot : Nat} :
    At final.inode path slot ↔
      At disk.inode path slot ∨
        slot = fresh ∧
          ∃ parent,
            At disk.inode parent directory ∧
              path = parent ++ [(splitParent text).2] := by
  have checked := entered.checked
  have stays :
      ∀ {path slot}, At disk.inode path slot → At final.inode path slot :=
    fun reached => reached.mono fun _ _ => entered.keeps.child
  constructor
  · intro reached
    induction reached with
    | root => exact .inl .root
    | @child path owner slot _ isChild inductionHypothesis =>
        have isParent := isChild.2.2
        rcases (entered.usedIff slot).mp isChild.1 with rfl | used
        · right
          rw [entered.freshParent] at isParent
          subst isParent
          rcases inductionHypothesis with reached | ⟨isFresh, _⟩
          · exact ⟨rfl, path, reached, by rw [entered.freshName fits]⟩
          · exact (checked.different isFresh.symm).elim
        · left
          obtain ⟨_, parent, name⟩ := entered.keeps slot used
          rw [parent] at isParent
          have nameSlice :
              (final.inode slot).nameSlice = (disk.inode slot).nameSlice := by
            unfold Inode.nameSlice
            rw [name]
          rcases inductionHypothesis with reached | ⟨isFresh, _⟩
          · rw [nameSlice]
            exact .child reached ⟨used, isChild.2.1, isParent⟩
          · have isDirectory :=
              (settled.tree.parentDirectory used isChild.2.1).2
            rw [isParent, isFresh, checked.freshFree] at isDirectory
            cases isDirectory
  · rintro (reached | ⟨rfl, parent, reached, rfl⟩)
    · exact stays reached
    · rw [← entered.freshName fits]
      exact .child (stays reached) (entered.child settled.tree)

theorem Entered.shows
    (shows : Shows disk files)
    {parent : Path}
    (reached : At disk.inode parent directory)
    (isNew : files (parent ++ [(splitParent text).2]) = none)
    (others :
      ∀ slot, Used disk.inode slot → final.node slot = disk.node slot) :
    Shows final
      (Function.update files (parent ++ [(splitParent text).2])
        (some (final.node fresh))) := by
  intro path node
  have same :
      (∃ slot, At disk.inode path slot ∧ final.node slot = node) ↔
        files path = some node := by
    rw [shows]
    refine exists_congr fun slot => and_congr_right fun isAt => ?_
    rw [others slot (isAt.used settled.tree)]
  by_cases isTarget : path = parent ++ [(splitParent text).2]
  · rw [isTarget, Function.update_self, Option.some.injEq]
    constructor
    · intro isNode
      exact
        ⟨fresh, (entered.at_iff settled fits).mpr
          (.inr ⟨rfl, parent, reached, rfl⟩), isNode⟩
    · rintro ⟨slot, isAt, isNode⟩
      rcases (entered.at_iff settled fits).mp isAt with old | ⟨rfl, _⟩
      · rw [shows.node_of_at old] at isNew
        cases isNew
      · exact isNode
  · rw [Function.update_of_ne isTarget, ← same]
    refine exists_congr fun slot => and_congr_left fun _ => ?_
    rw [entered.at_iff settled fits]
    constructor
    · exact .inl
    · rintro (old | ⟨_, other, otherReached, rfl⟩)
      · exact old
      · rw [otherReached.path_unique reached] at isTarget
        exact (isTarget rfl).elim

end Entering

/-- A settled disk and the tree that it shows. -/
structure Mirrors (candidate : FsMeta) (disk : Disk) (files : Files) : Prop where
  settled : Settled candidate disk
  shows : Shows disk files

namespace Mirrors

theorem created
    (mirrors : Mirrors candidate disk files)
    {text : List UInt8}
    {cwd kind mode uid gid directory fresh : Nat}
    {node : Node}
    (holds : kind = 1 ∧ node = .file [] ∨ kind = 2 ∧ node = .directory)
    (fits : NameFits (splitParent text).2)
    (checked : Creation disk text cwd directory fresh)
    {parent : Path}
    (reached : At disk.inode parent directory)
    (isNew : files (parent ++ [(splitParent text).2]) = none) :
    Mirrors candidate (disk.created text kind mode uid gid directory fresh)
        (Function.update files (parent ++ [(splitParent text).2])
          (some node)) ∧
      At (disk.created text kind mode uid gid directory fresh).inode
        (parent ++ [(splitParent text).2]) fresh := by
  obtain ⟨settled, shows⟩ := mirrors
  have kindUsed : kind ≠ 0 := by omega
  have atFresh :=
    @Creation.created_fresh disk text cwd kind mode uid gid directory fresh
      checked
  have entered :
      Entered disk (disk.created text kind mode uid gid directory fresh) text
        cwd directory fresh := by
    obtain ⟨owner, entered⟩ :=
      entered_of_createEntry kindUsed (createEntry_eq_ok.mpr ⟨_, checked, rfl⟩)
    have same : owner = directory := by
      rw [← entered.freshParent, atFresh]
      rfl
    rwa [same] at entered
  have others :
      ∀ slot,
        Used disk.inode slot →
        (disk.created text kind mode uid gid directory fresh).node slot =
          disk.node slot := by
    intro slot used
    refine node_congr (enter_sameContents ?_) fun _ _ _ => rfl
    rintro rfl
    exact used.2 checked.freshFree
  have freshNode :
      (disk.created text kind mode uid gid directory fresh).node fresh =
        node := by
    unfold Disk.node Disk.contents
    rw [atFresh]
    rcases holds with ⟨rfl, rfl⟩ | ⟨rfl, rfl⟩
    · rfl
    · rfl
  refine
    ⟨⟨?_, ?_⟩,
      (entered.at_iff settled fits).mpr (.inr ⟨rfl, parent, reached, rfl⟩)⟩
  · refine
      { tree := settled.tree.created checked kindUsed
        allocation := settled.allocation.created checked
        names := settled.names.created settled.tree checked kindUsed fits
        kinds := ?_ }
    intro slot used
    rcases (entered.usedIff slot).mp used with rfl | wasUsed
    · rw [atFresh]
      exact holds.imp And.left And.left
    · rw [(entered.keeps slot wasUsed).1]
      exact settled.kinds slot wasUsed
  · rw [← freshNode]
    exact entered.shows settled fits shows reached isNew others

/-- A new entry answers alike, or the inode slots are used up. -/
theorem create_follows
    (mirrors : Mirrors candidate disk files)
    {text : List UInt8}
    {cwd kind mode uid gid : Nat}
    {node : Node}
    (holds : kind = 1 ∧ node = .file [] ∨ kind = 2 ∧ node = .directory)
    (reached : At disk.inode here cwd)
    (fits : NameFits (splitParent text).2)
    (inRoot :
      slash ∈ text → (splitParent text).1 = [] → cwd = rootInode) :
    (∃ fresh target final after,
      createEntry text cwd kind mode uid gid disk = .ok fresh final ∧
        Files.create text here node files = .ok target after ∧
        Mirrors candidate final after ∧
        At final.inode target fresh) ∨
    (∃ error,
      createEntry text cwd kind mode uid gid disk = .err error disk ∧
        Files.create text here node files = .err error files) ∨
    createEntry text cwd kind mode uid gid disk = .err .noSpace disk := by
  have settled := mirrors.settled
  have shows := mirrors.shows
  unfold createEntry Files.create
  simp only
  rcases shows.parentOf_follows settled reached inRoot with
    ⟨parent, directory, located, found, parentReached⟩ |
      ⟨error, located, failed⟩
  case inr =>
    rw [located, Prog.bind_of_err failed]
    exact .inr (.inl ⟨error, rfl, rfl⟩)
  have directorySlot := (parentReached.used settled.tree).1
  rw [located, Prog.bind_of_ok found,
    Prog.bind_of_ok (readInode_of_isSlot directorySlot)]
  simp only
  by_cases isDirectory : (disk.inode directory).kind = 2
  case neg =>
    rw [if_pos isDirectory,
      if_pos ((shows.directory_iff parentReached).not.mpr isDirectory)]
    exact .inr (.inl ⟨.notDir, rfl, rfl⟩)
  rw [if_neg (not_not.mpr isDirectory),
    if_neg (not_not.mpr ((shows.directory_iff parentReached).mpr isDirectory))]
  obtain ⟨cells, walked, _⟩ := settled.tree.exists_children directorySlot
  have walk := walked fun entry => entry.nameSlice == (splitParent text).2
  have noDuplicate :=
    settled.tree.noDuplicate_iff directorySlot (splitParent text).2
  rw [walk] at noDuplicate
  have named :=
    shows.named_iff settled.names parentReached (splitParent text).2
  rw [Prog.bind_of_ok walk]
  by_cases isNew : files (parent ++ [(splitParent text).2]) = none
  case neg =>
    rw [if_pos isNew, if_pos]
    · exact .inr (.inl ⟨.exists, rfl, rfl⟩)
    · intro none
      obtain ⟨child, isChild, isName⟩ := named.mp isNew
      exact noDuplicate.mp (by rw [none]) child isChild isName
  have passed :=
    noDuplicate.mpr fun child isChild isName =>
      named.mpr ⟨child, isChild, isName⟩ isNew
  rw [← walk] at passed
  injection walk.symm.trans passed with isNone
  have scanned := @firstFree_apply disk inodeSlots fun _ => mem_inodeSlots.mp
  rw [if_neg (not_not.mpr isNew), isNone, if_neg (not_not.mpr rfl),
    Prog.bind_of_ok scanned]
  generalize (inodeSlots.find? fun slot =>
    decide ((disk.inode slot).kind = 0)).getD 0 = fresh at scanned
  by_cases isFull : fresh = 0
  · rw [if_pos isFull]
    exact .inr (.inr rfl)
  obtain ⟨freshSlot, freshFree⟩ := firstFree_found scanned isFull
  have checked : Creation disk text cwd directory fresh :=
    ⟨found, directorySlot, isDirectory, passed, scanned, freshSlot, freshFree⟩
  rw [if_neg isFull]
  obtain ⟨made, freshReached⟩ :=
    @created _ _ _ mirrors text cwd kind mode uid gid directory fresh node holds
      fits checked parent parentReached isNew
  exact .inl ⟨fresh, _, _, _, rfl, rfl, made, freshReached⟩

theorem findOrCreate_follows
    (mirrors : Mirrors candidate disk files)
    {text : List UInt8}
    {cwd uid gid : Nat}
    (reached : At disk.inode here cwd)
    (fits : NameFits (splitParent text).2)
    (inRoot :
      slash ∈ text → (splitParent text).1 = [] → cwd = rootInode) :
    (∃ slot target final after,
      resolveOrCreate text cwd uid gid disk = .ok slot final ∧
        Files.findOrCreate text here files = .ok target after ∧
        Mirrors candidate final after ∧
        At final.inode target slot) ∨
    (∃ error,
      resolveOrCreate text cwd uid gid disk = .err error disk ∧
        Files.findOrCreate text here files = .err error files) ∨
    resolveOrCreate text cwd uid gid disk = .err .noSpace disk := by
  unfold resolveOrCreate Files.findOrCreate
  rcases mirrors.shows.locate_follows mirrors.settled text reached with
    ⟨target, slot, located, resolved, targetReached⟩ |
      ⟨error, located, failed⟩
  · rw [located, resolved]
    exact .inl ⟨slot, target, disk, files, rfl, rfl, mirrors, targetReached⟩
  · rw [located, failed]
    by_cases isMissing : error = .notFound
    · subst isMissing
      exact mirrors.create_follows (.inl ⟨rfl, rfl⟩) reached fits inRoot
    · cases error with
      | notFound => exact (isMissing rfl).elim
      | _ => exact .inr (.inl ⟨_, rfl, rfl⟩)

theorem at_iff_of_sameEntry
    (same : ∀ slot, SameEntry (final.inode slot) (disk.inode slot))
    {slot : Nat} :
    At final.inode path slot ↔ At disk.inode path slot := by
  have child :
      ∀ directory slot,
        Child final.inode directory slot ↔ Child disk.inode directory slot := by
    intro directory slot
    unfold Child Used
    rw [(same slot).kind, (same slot).parent]
  constructor
  · intro reached
    exact reached.mono fun directory slot isChild =>
      ⟨(child _ _).mp isChild, (same slot).name.symm⟩
  · intro reached
    exact reached.mono fun directory slot isChild =>
      ⟨(child _ _).mpr isChild, (same slot).name⟩

theorem rewritten
    (mirrors : Mirrors candidate disk files)
    (geometry : Geometry candidate)
    {target : Path}
    {ino : Nat}
    {data : List UInt8}
    (reached : At disk.inode target ino)
    (small : blocksFor data.length ≤ maxFileBlocks)
    (returned : rewriteFile candidate ino data disk = .ok () final) :
    Mirrors candidate final
      (Function.update files target (some (.file data))) := by
  obtain ⟨settled, shows⟩ := mirrors
  have most : maxFileBlocks = 1024 := rfl
  have fits : data.length ≤ maxFileBlocks * blockSize := by
    unfold blocksFor at small
    simp only [blockSize] at small ⊢
    omega
  have written := settled.allocation.rewritten geometry fits returned
  have same := written.sameEntry
  obtain ⟨start, count, table⟩ := written.table
  have isFile := (rewriteFile_eq_ok returned).2.1
  constructor
  · refine
      { tree := (TreeInvariant.rewriteFile_keeps ino data _ settled.tree).1 _ _
          returned
        allocation := settled.allocation.rewriteFileKeeps geometry (by omega)
          returned
        names := (rewriteFile_keepsUnique settled.names ino data).1 _ _ returned
        kinds := ?_ }
    rintro slot ⟨isSlot, isUsed⟩
    rw [(same slot).kind] at isUsed ⊢
    exact settled.kinds slot ⟨isSlot, isUsed⟩
  · intro path node
    by_cases isTarget : path = target
    · rw [isTarget, Function.update_self, Option.some.injEq]
      have isNode : final.node ino = .file data := by
        rw [disk_node_of_other (by rw [(same ino).kind, isFile]; decide),
          written.contents]
      rw [← isNode]
      constructor
      · rintro rfl
        exact ⟨ino, (at_iff_of_sameEntry same).mpr reached, rfl⟩
      · rintro ⟨slot, slotReached, rfl⟩
        rw [reached.slot_unique settled.names
          ((at_iff_of_sameEntry same).mp slotReached)]
    · rw [Function.update_of_ne isTarget, shows]
      refine exists_congr fun slot => ?_
      rw [at_iff_of_sameEntry same]
      refine and_congr_right fun slotReached => ?_
      have other : slot ≠ ino := by
        rintro rfl
        exact isTarget (slotReached.path_unique reached)
      have used := slotReached.used settled.tree
      have sameNode : final.node slot = disk.node slot := by
        refine node_congr ?_ fun notDirectory => ?_
        · rw [table, Function.update_of_ne other]
          exact ⟨rfl, rfl, rfl, rfl⟩
        · exact
            written.others slot
              ⟨used.1, (settled.kinds slot used).resolve_right notDirectory⟩
              other
      rw [sameNode]

/-- New contents answer alike, unless there is no room for them. -/
theorem rewrite_follows
    (mirrors : Mirrors candidate disk files)
    (geometry : Geometry candidate)
    {target : Path}
    {ino : Nat}
    {data : List UInt8}
    (reached : At disk.inode target ino)
    (fits : blocksFor data.length < 2 ^ 32) :
    Outcome.Related (Mirrors candidate) (rewriteFile candidate ino data disk)
        (Files.rewrite target data files) ∨
      ∃ final, rewriteFile candidate ino data disk = .err .noSpace final := by
  have used := reached.used mirrors.settled.tree
  have node := mirrors.shows.node_of_at reached
  have needed : neededBlocks data = blocksFor data.length :=
    Nat.mod_eq_of_lt fits
  unfold Files.rewrite
  rcases mirrors.settled.kinds ino used with isFile | isDirectory
  · rw [node, disk_node_of_other (by rw [isFile]; decide)]
    simp only
    by_cases tooLarge : maxFileBlocks < blocksFor data.length
    · left
      rw [if_pos tooLarge]
      unfold rewriteFile
      rw [Prog.bind_of_ok (readInode_of_isSlot used.1),
        if_neg (not_not.mpr isFile), needed, if_pos tooLarge]
      exact .err _ mirrors
    · rw [if_neg tooLarge]
      obtain ⟨bytes, released, _⟩ :=
        mirrors.settled.allocation.release geometry ⟨used.1, isFile⟩ disk
      have placing :
          rewriteFile candidate ino data disk =
            placeData candidate ino (disk.inode ino) data
              { disk with bytes := bytes } := by
        unfold rewriteFile
        rw [Prog.bind_of_ok (readInode_of_isSlot used.1),
          if_neg (not_not.mpr isFile), needed, if_neg tooLarge,
          Prog.bind_of_ok released]
      have done :
          ∀ {final},
            rewriteFile candidate ino data disk = .ok () final →
            Mirrors candidate final
              (Function.update files target (some (.file data))) :=
        fun returned =>
          mirrors.rewritten geometry reached (Nat.le_of_not_lt tooLarge)
            returned
      rcases Nat.eq_zero_or_pos (neededBlocks data) with nothing | positive
      · left
        have returned := placing.trans (placeData_zero ino _ nothing)
        rw [returned]
        exact .ok () (done returned)
      · rcases @placeData_spec _ { disk with bytes := bytes } geometry ino
            (disk.inode ino) data positive with
          ⟨_, final, returns, _⟩ | ⟨failed, _⟩
        · left
          have returned := placing.trans returns
          rw [returned]
          exact .ok () (done returned)
        · exact .inr ⟨_, placing.trans failed⟩
  · left
    rw [node, disk_node_of_directory isDirectory]
    unfold rewriteFile
    rw [Prog.bind_of_ok (readInode_of_isSlot used.1),
      if_pos (by rw [isDirectory]; decide)]
    exact .err _ mirrors

end Mirrors

/-! ## Removing -/

/-- What `remove` leaves of the other slots. -/
structure Vanished (disk final : Disk) (target : Nat) : Prop where
  gone : (final.inode target).kind = 0
  entry :
    ∀ slot,
      slot ≠ target →
      (final.inode slot).kind = (disk.inode slot).kind ∧
        (final.inode slot).parent = (disk.inode slot).parent ∧
        (final.inode slot).nameSlice = (disk.inode slot).nameSlice
  node :
    ∀ slot,
      slot ≠ target →
      Used disk.inode slot →
      final.node slot = disk.node slot

theorem Vanished.used_iff
    {target slot : Nat}
    (vanished : Vanished disk final target) :
    Used final.inode slot ↔ Used disk.inode slot ∧ slot ≠ target := by
  unfold Used
  by_cases isTarget : slot = target
  · rw [isTarget, vanished.gone]
    simp
  · rw [(vanished.entry slot isTarget).1]
    simp [isTarget]

theorem Vanished.at_iff
    {target slot : Nat}
    (vanished : Vanished disk final target)
    (notRoot : target ≠ rootInode)
    (childless : ∀ child, ¬ Child disk.inode target child) :
    At final.inode path slot ↔ At disk.inode path slot ∧ slot ≠ target := by
  constructor
  · intro reached
    induction reached with
    | root => exact ⟨.root, notRoot.symm⟩
    | @child path owner slot _ isChild inductionHypothesis =>
        obtain ⟨used, other⟩ := vanished.used_iff.mp isChild.1
        obtain ⟨_, parent, name⟩ := vanished.entry slot other
        rw [name]
        exact
          ⟨.child inductionHypothesis.1
            ⟨used, isChild.2.1, parent.symm.trans isChild.2.2⟩, other⟩
  · rintro ⟨reached, other⟩
    induction reached with
    | root => exact .root
    | @child path owner slot _ isChild inductionHypothesis =>
        obtain ⟨_, parent, name⟩ := vanished.entry slot other
        have ownerStays : owner ≠ target := by
          rintro rfl
          exact childless slot isChild
        rw [← name]
        exact
          .child (inductionHypothesis ownerStays)
            ⟨vanished.used_iff.mpr ⟨isChild.1, other⟩, isChild.2.1,
              parent.trans isChild.2.2⟩

theorem vanished_of_remove
    (consistent : Consistent candidate disk)
    (kinds : Kinds disk.inode)
    {text : List UInt8}
    {cwd ino : Nat}
    (resolved : resolveWith text cwd disk = .ok ino disk)
    (returned : remove candidate text cwd disk = .ok () final) :
    Vanished disk final ino := by
  obtain ⟨target, before, middle, found, _, isSlot, _, _, _, released, rfl⟩ :=
    remove_eq_ok returned
  obtain rfl : ino = target := by
    injection resolved.symm.trans found
  have table : middle.inode = detach disk.inode _ ino before :=
    (releaseFile_keepsTable _ _).ok released
  have bytes :
      ∀ address,
        blockBytes candidate.dataStart ≤ address →
        middle.bytes address = disk.bytes address := by
    unfold releaseFile at released
    split at released
    · have same := (releaseBlocks_keepsData (disk.inode ino)).ok released
      exact same
    · cases released
      exact fun _ _ => rfl
  have kept :
      ∀ slot,
        slot ≠ ino →
        (middle.zeroed ino).inode slot =
          detach disk.inode (disk.inode ino).parent ino before slot := by
    intro slot other
    rw [← table]
    exact Function.update_of_ne other _ _
  constructor
  · simp [Disk.zeroed, Inode.zero]
  · intro slot other
    obtain ⟨kind, parent, name⟩ :=
      @detach_fields disk.inode (disk.inode ino).parent ino before slot
    rw [kept slot other]
    exact ⟨kind, parent, by unfold Inode.nameSlice; rw [name]⟩
  · intro slot other used
    refine node_congr ?_ fun notDirectory index inside => ?_
    · rw [kept slot other]
      exact detach_sameContents slot
    · have isFile : IsFile disk.inode slot :=
        ⟨used.1, (kinds slot used).resolve_right notDirectory⟩
      exact bytes _ (consistent.byte_inData isFile inside)

theorem Shows.below_iff
    (shows : Shows disk files)
    (settled : Settled candidate disk)
    {slot : Nat}
    (reached : At disk.inode path slot) :
    (∃ name, files (path ++ [name]) ≠ none) ↔
      (disk.inode slot).kind = 2 ∧ (disk.inode slot).firstChild ≠ 0 := by
  have tree := settled.tree
  have isSlot := (reached.used tree).1
  constructor
  · rintro ⟨name, named⟩
    obtain ⟨child, isChild, _⟩ :=
      (shows.named_iff settled.names reached name).mp named
    have isDirectory := (tree.parentDirectory isChild.1 isChild.2.1).2
    rw [isChild.2.2] at isDirectory
    exact
      ⟨isDirectory, fun isEmpty =>
        tree.not_parent_of_childless isSlot isEmpty isChild.1 isChild.2.1
          isChild.2.2⟩
  · rintro ⟨_, hasChild⟩
    obtain ⟨cells, chain, members⟩ := tree.children isSlot
    cases cells with
    | nil => exact (hasChild chain).elim
    | cons first rest =>
        have isChild : Child disk.inode slot first :=
          (members first).mp (by simp)
        exact
          ⟨_, (shows.named_iff settled.names reached _).mpr
            ⟨first, isChild, rfl⟩⟩

theorem Settled.remove_returns
    (settled : Settled candidate disk)
    (geometry : Geometry candidate)
    {text : List UInt8}
    {cwd ino : Nat}
    (resolved : resolveWith text cwd disk = .ok ino disk)
    (used : Used disk.inode ino)
    (notRoot : ino ≠ rootInode)
    (childless :
      ¬ ((disk.inode ino).kind = 2 ∧ (disk.inode ino).firstChild ≠ 0)) :
    ∃ final, remove candidate text cwd disk = .ok () final := by
  have tree := settled.tree
  have parentSlot := (tree.parentDirectory used notRoot).1
  obtain ⟨front, back, _, unlinked⟩ := tree.unlinkChild_apply used notRoot
  have releases :
      ∃ middle,
        releaseFile candidate (disk.inode ino)
            (disk.detached (disk.inode ino).parent ino
              (front.getLastD 0)) =
          .ok () middle := by
    unfold releaseFile
    split
    · rename_i isFile
      obtain ⟨bytes, released, _⟩ :=
        settled.allocation.release geometry ⟨used.1, isFile⟩
          (disk.detached (disk.inode ino).parent ino (front.getLastD 0))
      exact ⟨_, released⟩
    · exact ⟨_, rfl⟩
  obtain ⟨middle, released⟩ := releases
  refine ⟨middle.zeroed ino, ?_⟩
  unfold remove
  rw [Prog.bind_of_ok resolved, if_neg notRoot,
    Prog.bind_of_ok (readInode_of_isSlot used.1),
    Prog.bind_of_ok (readInode_of_isSlot parentSlot), if_neg childless,
    Prog.bind_of_ok unlinked, Prog.bind_of_ok released]
  rfl

theorem Mirrors.removed
    (mirrors : Mirrors candidate disk files)
    (geometry : Geometry candidate)
    {target : Path}
    {text : List UInt8}
    {cwd ino : Nat}
    (reached : At disk.inode target ino)
    (notRoot : ino ≠ rootInode)
    (resolved : resolveWith text cwd disk = .ok ino disk)
    (childless : ∀ child, ¬ Child disk.inode ino child)
    (returned : remove candidate text cwd disk = .ok () final) :
    Mirrors candidate final (Function.update files target none) := by
  obtain ⟨settled, shows⟩ := mirrors
  have tree := settled.tree
  have vanished :=
    vanished_of_remove settled.allocation settled.kinds resolved returned
  constructor
  · refine
      { tree := (TreeInvariant.remove_keeps text cwd _ tree).1 _ _ returned
        allocation := settled.allocation.removeKeeps geometry returned
        names := remove_keepsUnique settled.names returned
        kinds := ?_ }
    intro slot stillUsed
    obtain ⟨wasUsed, other⟩ := vanished.used_iff.mp stillUsed
    rw [(vanished.entry slot other).1]
    exact settled.kinds slot wasUsed
  · intro path node
    have paths := fun slot => @vanished.at_iff _ _ path _ slot notRoot childless
    by_cases isTarget : path = target
    · rw [isTarget, Function.update_self]
      constructor
      · intro isSome
        cases isSome
      · rintro ⟨slot, slotReached, _⟩
        rw [← isTarget] at slotReached reached
        obtain ⟨wasReached, other⟩ := (paths slot).mp slotReached
        exact (other (wasReached.slot_unique settled.names reached)).elim
    · rw [Function.update_of_ne isTarget, shows]
      refine exists_congr fun slot => ?_
      rw [paths slot]
      constructor
      · rintro ⟨slotReached, isNode⟩
        have other : slot ≠ ino := by
          rintro rfl
          exact isTarget (slotReached.path_unique reached)
        rw [vanished.node slot other (slotReached.used tree)]
        exact ⟨⟨slotReached, other⟩, isNode⟩
      · rintro ⟨⟨slotReached, other⟩, isNode⟩
        rw [vanished.node slot other (slotReached.used tree)] at isNode
        exact ⟨slotReached, isNode⟩

/-- Removing an entry answers alike. -/
theorem Mirrors.remove_follows
    (mirrors : Mirrors candidate disk files)
    (geometry : Geometry candidate)
    {cwd : Nat}
    (reached : At disk.inode here cwd)
    (text : List UInt8) :
    Outcome.Related (Mirrors candidate) (remove candidate text cwd disk)
      (Files.remove text here files) := by
  have settled := mirrors.settled
  have shows := mirrors.shows
  have tree := settled.tree
  unfold Files.remove
  rcases shows.locate_follows settled text reached with
    ⟨target, ino, located, resolved, targetReached⟩ |
      ⟨error, located, failed⟩
  case inr =>
    rw [located]
    have refused : remove candidate text cwd disk = .err error disk :=
      Prog.bind_of_err failed
    rw [refused]
    exact .err error mirrors
  have below := shows.below_iff settled targetReached
  have used := targetReached.used tree
  rw [located]
  simp only
  by_cases isRoot : ino = rootInode
  · subst isRoot
    have isNil : target = [] := targetReached.path_unique .root
    have refused : remove candidate text cwd disk = .err .permission disk := by
      unfold remove
      rw [Prog.bind_of_ok resolved, if_pos rfl]
      rfl
    rw [refused, if_pos isNil]
    exact .err _ mirrors
  have notNil : target ≠ [] := by
    rintro rfl
    exact isRoot targetReached.of_nil
  have parentSlot := (tree.parentDirectory used isRoot).1
  rw [if_neg notNil]
  by_cases hasChild :
      (disk.inode ino).kind = 2 ∧ (disk.inode ino).firstChild ≠ 0
  · have refused : remove candidate text cwd disk = .err .notEmpty disk := by
      unfold remove
      rw [Prog.bind_of_ok resolved, if_neg isRoot,
        Prog.bind_of_ok (readInode_of_isSlot used.1),
        Prog.bind_of_ok (readInode_of_isSlot parentSlot), if_pos hasChild]
      rfl
    rw [refused, if_pos (below.mpr hasChild)]
    exact .err _ mirrors
  rw [if_neg (below.not.mpr hasChild)]
  obtain ⟨final, returned⟩ :=
    settled.remove_returns geometry resolved used isRoot hasChild
  have childless : ∀ child, ¬ Child disk.inode ino child := by
    intro child isChild
    refine below.not.mpr hasChild ⟨(disk.inode child).nameSlice, ?_⟩
    exact
      (shows.named_iff settled.names targetReached _).mpr
        ⟨child, isChild, rfl⟩
  rw [returned]
  exact
    .ok ()
      (mirrors.removed geometry targetReached isRoot resolved childless returned)

/-! ## Calls -/

/-- The current directory of a call. -/
def Call.cwd : Call → Nat
  | .makeDir _ cwd _ _ => cwd
  | .touch _ cwd _ _ => cwd
  | .writeFile _ cwd _ _ _ => cwd
  | .remove _ cwd _ _ => cwd

/--
A call in the directory `here`: the name of what it may create fits in a slot, a path
`/name` is used in the root only, the `u32` of the blocks does not wrap, and there is
room.
-/
structure OrderlyCall
    (candidate : FsMeta)
    (call : Path × Call)
    (disk : Disk) : Prop where
  here : At disk.inode call.1 call.2.cwd
  fits :
    ∀ path cwd,
      call.2.target = some (path, cwd) →
      NameFits (splitParent path).2 ∧
        (slash ∈ path → (splitParent path).1 = [] → cwd = rootInode)
  small : blocksFor call.2.dataLength < 2 ^ 32
  room : ∀ final, call.2.run candidate disk ≠ .err .noSpace final

/-- A call on a disk answers as it does on the tree, and keeps the two together. -/
theorem Mirrors.call_follows
    (geometry : Geometry candidate)
    {call : Path × Call}
    (mirrors : Mirrors candidate disk files)
    (orderly : OrderlyCall candidate call disk) :
    Outcome.Related (Mirrors candidate) (call.2.run candidate disk)
      (call.2.onFiles call.1 files) := by
  obtain ⟨here, call⟩ := call
  obtain ⟨reached, fits, small, room⟩ := orderly
  simp only at reached fits small room ⊢
  cases call with
  | makeDir path cwd uid gid =>
      obtain ⟨nameFits, inRoot⟩ := fits path cwd rfl
      change
        Outcome.Related _
          ((createEntry path cwd 2 0o755 uid gid >>= fun _ => pure ()) disk)
          ((Files.create path here .directory >>= fun _ => pure ()) files)
      rcases @create_follows _ _ _ _ mirrors path cwd 2 0o755 uid gid .directory
          (.inr ⟨rfl, rfl⟩) reached nameFits inRoot with
        ⟨fresh, target, final, after, returned, made, mirrored, _⟩ |
          ⟨error, failed, refused⟩ | noRoom
      · rw [Prog.bind_of_ok returned, Prog.bind_of_ok made]
        exact .ok () mirrored
      · rw [Prog.bind_of_err failed, Prog.bind_of_err refused]
        exact .err error mirrors
      · exact (room disk (Prog.bind_of_err noRoom)).elim
  | touch path cwd uid gid =>
      obtain ⟨nameFits, inRoot⟩ := fits path cwd rfl
      change
        Outcome.Related _
          ((resolveOrCreate path cwd uid gid >>= fun _ => pure ()) disk)
          ((Files.findOrCreate path here >>= fun _ => pure ()) files)
      rcases @findOrCreate_follows _ _ _ _ mirrors path cwd uid gid reached
          nameFits inRoot with
        ⟨slot, target, final, after, returned, found, mirrored, _⟩ |
          ⟨error, failed, refused⟩ | noRoom
      · rw [Prog.bind_of_ok returned, Prog.bind_of_ok found]
        exact .ok () mirrored
      · rw [Prog.bind_of_err failed, Prog.bind_of_err refused]
        exact .err error mirrors
      · exact (room disk (Prog.bind_of_err noRoom)).elim
  | writeFile path cwd data uid gid =>
      obtain ⟨nameFits, inRoot⟩ := fits path cwd rfl
      change
        Outcome.Related _
          ((resolveOrCreate path cwd uid gid >>= fun ino =>
            rewriteFile candidate ino data) disk)
          ((Files.findOrCreate path here >>= fun target =>
            Files.rewrite target data) files)
      rcases @findOrCreate_follows _ _ _ _ mirrors path cwd uid gid reached
          nameFits inRoot with
        ⟨slot, target, final, after, returned, found, mirrored, targetReached⟩ |
          ⟨error, failed, refused⟩ | noRoom
      · rw [Prog.bind_of_ok returned, Prog.bind_of_ok found]
        rcases mirrored.rewrite_follows geometry targetReached small with
          follows | ⟨last, noRoom⟩
        · exact follows
        · exact (room last ((Prog.bind_of_ok returned).trans noRoom)).elim
      · rw [Prog.bind_of_err failed, Prog.bind_of_err refused]
        exact .err error mirrors
      · exact (room disk (Prog.bind_of_err noRoom)).elim
  | remove path cwd uid gid =>
      exact mirrors.remove_follows geometry reached path

theorem mirrors_formatted
    (geometry : Geometry candidate)
    (formatted : format candidate Disk.blank = .ok candidate disk) :
    Mirrors candidate disk Files.rootOnly := by
  obtain ⟨other, alsoFormatted, consistent⟩ := consistent_formatted geometry
  obtain rfl : disk = other := by
    injection formatted.symm.trans alsoFormatted
  have table := format_table formatted
  have onlyRoot :
      ∀ {slot}, Used disk.inode slot → slot = rootInode := by
    intro slot used
    by_contra other
    rw [Used, table, Function.update_of_ne other] at used
    exact used.2 rfl
  have rootKind : (disk.inode rootInode).kind = 2 := by
    rw [table, Function.update_self]
    rfl
  constructor
  · refine
      { tree := treeInvariant_formatted formatted
        allocation := consistent
        names := uniqueNames_formatted formatted
        kinds := ?_ }
    intro slot used
    rw [onlyRoot used]
    exact .inr rootKind
  · intro path node
    have atRoot :
        ∀ slot, At disk.inode path slot ↔ path = [] ∧ slot = rootInode := by
      intro slot
      constructor
      · intro reached
        cases reached with
        | root => exact ⟨rfl, rfl⟩
        | child _ isChild =>
            exact (isChild.2.1 (onlyRoot isChild.1)).elim
      · rintro ⟨rfl, rfl⟩
        exact .root
    simp only [atRoot]
    unfold Files.rootOnly
    by_cases isRoot : path = []
    · rw [isRoot, Function.update_self, Option.some.injEq]
      constructor
      · rintro rfl
        exact ⟨rootInode, ⟨rfl, rfl⟩, disk_node_of_directory rootKind⟩
      · rintro ⟨_, ⟨_, rfl⟩, rfl⟩
        exact (disk_node_of_directory rootKind).symm
    · rw [Function.update_of_ne isRoot]
      simp [isRoot]

/--
In every run of calls on a formatted disk, each call answers as it does on the tree of
files, and the disk shows that tree throughout.
-/
theorem calls_follow_files
    {candidate : FsMeta}
    {disk : Disk}
    {calls : List (Path × Call)}
    (geometry : Geometry candidate)
    (formatted : format candidate Disk.blank = .ok candidate disk)
    (orderly :
      Along (fun call => call.2.run candidate)
        (OrderlyCall candidate) calls disk) :
    Follows (Mirrors candidate) (fun call : Path × Call => call.2.run candidate)
      (fun call => call.2.onFiles call.1) calls disk Files.rootOnly := by
  have mirrors := mirrors_formatted geometry formatted
  clear formatted
  generalize Files.rootOnly = files at mirrors
  induction calls generalizing disk files with
  | nil => trivial
  | cons call rest inductionHypothesis =>
      have follows := mirrors.call_follows geometry orderly.1
      exact
        ⟨follows, fun next otherNext ended otherEnded =>
          inductionHypothesis (orderly.2 next ended) otherNext
            (follows.final ended otherEnded)⟩

/-- `touch f` on a formatted disk -/
def touchCall : Path × Call :=
  ([], .touch sampleName rootInode 0 0)

theorem orderly_touch
    (formatted : format smallDisk Disk.blank = .ok smallDisk disk) :
    ∃ final,
      touchCall.2.run smallDisk disk = .ok () final ∧
        OrderlyCall smallDisk touchCall disk := by
  obtain ⟨final, touched, _⟩ := touch_formatted (format_table formatted) 0 0
  refine ⟨final, touched, .root, ?_, ?_, ?_⟩
  · intro path cwd target
    cases target
    exact ⟨by decide, fun _ _ => rfl⟩
  · change blocksFor 0 < 2 ^ 32
    rw [blocksFor_zero]
    decide
  · intro last failed
    cases touched.symm.trans failed

theorem calls_follow_files_touch :
    ∃ disk final,
      format smallDisk Disk.blank = .ok smallDisk disk ∧
        touchCall.2.run smallDisk disk = .ok () final ∧
        Mirrors smallDisk final
          (Function.update Files.rootOnly [sampleName] (some (.file []))) := by
  obtain ⟨disk, formatted, _⟩ := format_spec geometry_smallDisk
  obtain ⟨final, touched, orderly⟩ := orderly_touch formatted
  obtain ⟨follows, _⟩ :=
    @calls_follow_files smallDisk disk [touchCall] geometry_smallDisk formatted
      ⟨orderly, fun _ _ => trivial⟩
  exact
    ⟨disk, final, formatted, touched,
      follows.final (congrArg Outcome.final? touched) rfl⟩

end VibuxOS.Storage.Vfs
