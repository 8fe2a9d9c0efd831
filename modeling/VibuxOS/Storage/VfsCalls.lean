import VibuxOS.Storage.VfsTree

namespace VibuxOS.Storage.Vfs

open VibuxOS.Lib

/-!
# What the programs on the inode table do

One lemma for each program and exit, in every disk state: which slots a
returning program has read and which records it has written.  Nothing here
assumes a tree; the walks are followed along a chain where one is given.
-/

variable
  {disk final : Disk}
  {slot : Nat}
  {inode : Inode}
  {path : List UInt8}
  {error : FsError}
  {candidate : FsMeta}
  {ino : Nat}
  {data : List UInt8}
  (bitmap : Bitmap)
  (block : Nat)

/-! ## Reading -/

theorem readInode_eq_ok :
    readInode slot disk = .ok inode final ↔
      IsSlot slot ∧ inode = disk.inode slot ∧ final = disk := by
  unfold readInode
  split
  case isTrue outside =>
    simp only [Prog.fail_apply, reduceCtorEq, false_iff]
    rintro ⟨⟨lower, upper⟩, _⟩
    omega
  case isFalse inside =>
    have isSlot : IsSlot slot := by
      unfold IsSlot
      omega
    simp [isSlot, eq_comm]

theorem readInode_of_isSlot
    (isSlot : IsSlot slot) :
    readInode slot disk = .ok (disk.inode slot) disk :=
  readInode_eq_ok.mpr ⟨isSlot, rfl, rfl⟩

theorem readInode_ne_hang :
    readInode slot disk ≠ .hang := by
  unfold readInode
  split <;> simp

theorem readInode_readOnly
    (slot : Nat) :
    Prog.ReadOnly (readInode slot) :=
  .ite (.fail _) (.gets _)

@[simp] theorem writeInode_apply
    (slot : Nat)
    (inode : Inode) :
    writeInode slot inode disk =
      .ok () { disk with
        inode := Function.update disk.inode slot inode } :=
  rfl

theorem walkSiblings_readOnly
    (stop : Inode → Bool)
    (fuel child : Nat) :
    Prog.ReadOnly (walkSiblings stop fuel child) := by
  induction fuel generalizing child with
  | zero =>
      exact .ite (.pure _) .hang
  | succ fuel inductionHypothesis =>
      exact .ite (.pure _)
        (.bind (readInode_readOnly _)
          (fun entry => .ite (.pure _) (inductionHypothesis _)))

theorem walkSiblings_chain
    {stop : Inode → Bool}
    {fuel child : Nat}
    {cells : List Nat}
    (chain : Chain (siblings disk.inode) child cells)
    (slots : ∀ cell ∈ cells, IsSlot cell)
    (short : cells.length ≤ fuel) :
    walkSiblings stop fuel child disk =
      .ok ((cells.find? fun cell => stop (disk.inode cell)).getD 0)
        disk := by
  induction cells generalizing fuel child with
  | nil =>
      obtain rfl : child = 0 := chain
      cases fuel <;> simp [walkSiblings]
  | cons first rest inductionHypothesis =>
      obtain ⟨rfl, nonzero, later⟩ := chain
      cases fuel with
      | zero =>
          simp at short
      | succ fuel =>
          have walked :=
            @inductionHypothesis fuel _ later
              (fun cell member => slots cell (by simp [member]))
              (by simpa using short)
          simp only [walkSiblings, nonzero, if_false]
          rw [Prog.bind_of_ok
            (readInode_of_isSlot (slots child (by simp)))]
          by_cases stops : stop (disk.inode child) = true
          · simp [stops]
          · rw [if_neg stops]
            simpa [stops, siblings] using walked

/-! ## Resolving -/

theorem resolvePart_readOnly
    (part : List UInt8)
    (current : Nat) :
    Prog.ReadOnly (resolvePart part current) :=
  .ite
    (.bind (readInode_readOnly _) (fun _ => .pure _))
    (.bind (readInode_readOnly _)
      (fun _ => .ite (.fail _)
        (.bind (walkSiblings_readOnly _ _ _)
          (fun _ => .ite (.fail _) (.pure _)))))

theorem resolveParts_readOnly
    (parts : List (List UInt8))
    (current : Nat) :
    Prog.ReadOnly (resolveParts parts current) := by
  induction parts generalizing current with
  | nil =>
      exact .pure _
  | cons part rest inductionHypothesis =>
      exact .bind (resolvePart_readOnly _ _) inductionHypothesis

theorem resolveWith_readOnly
    (path : List UInt8)
    (cwd : Nat) :
    Prog.ReadOnly (resolveWith path cwd) :=
  .ite (.pure _)
    (.ite (resolveParts_readOnly _ _) (resolveParts_readOnly _ _))

theorem parentInode_readOnly
    (parentPath : List UInt8)
    (cwd : Nat) :
    Prog.ReadOnly (parentInode parentPath cwd) :=
  .ite (.pure _) (resolveWith_readOnly _ _)

/-- What a round of `resolve_with` has read when it goes on. -/
theorem resolvePart_eq_ok
    {part : List UInt8}
    {current next : Nat} :
    resolvePart part current disk = .ok next final ↔
      final = disk ∧
        IsSlot current ∧
        ((part = dotDot ∧
            next =
              if (disk.inode current).parent ≠ 0 then
                (disk.inode current).parent
              else
                current) ∨
          (part ≠ dotDot ∧
            (disk.inode current).kind = 2 ∧
            next ≠ 0 ∧
            walkSiblings
                (fun entry =>
                  entry.kind != 0 && entry.nameSlice == part)
                walkFuel (disk.inode current).firstChild disk =
              .ok next disk)) := by
  by_cases isSlot : IsSlot current
  case neg =>
    have stuck : ∀ inode middle, readInode current disk ≠ .ok inode middle := by
      intro inode middle read
      exact isSlot (readInode_eq_ok.mp read).1
    simp only [isSlot, false_and, and_false, iff_false]
    unfold resolvePart
    intro returned
    split at returned
    all_goals
      obtain ⟨inode, middle, read, _⟩ := Prog.bind_eq_ok.mp returned
      exact stuck inode middle read
  case pos =>
    have read := @readInode_of_isSlot disk current isSlot
    unfold resolvePart
    by_cases isDotDot : part = dotDot
    · rw [if_pos isDotDot, Prog.bind_of_ok read]
      simp only [Prog.pure_apply, Outcome.ok.injEq, isSlot, isDotDot,
        true_and, not_true, ne_eq, false_and, or_false]
      exact ⟨fun both => ⟨both.2.symm, both.1.symm⟩,
        fun both => ⟨both.2.symm, both.1.symm⟩⟩
    · rw [if_neg isDotDot, Prog.bind_of_ok read]
      simp only [isSlot, isDotDot, false_and, not_false_eq_true,
        ne_eq, true_and, false_or]
      by_cases isDirectory : (disk.inode current).kind = 2
      case neg =>
        simp [isDirectory]
      case pos =>
        simp only [isDirectory, not_true, if_false, true_and]
        constructor
        · intro returned
          obtain ⟨found, middle, walked, later⟩ :=
            Prog.bind_eq_ok.mp returned
          obtain rfl := (walkSiblings_readOnly _ _ _).1 walked
          split at later
          · cases later
          · cases later
            exact ⟨rfl, ‹_›, walked⟩
        · rintro ⟨rfl, nonzero, walked⟩
          rw [Prog.bind_of_ok walked]
          simp [nonzero]

theorem resolveParts_append
    (front back : List (List UInt8))
    (current : Nat) :
    resolveParts (front ++ back) current disk =
      (resolveParts front current >>= resolveParts back) disk := by
  induction front generalizing current disk with
  | nil =>
      rfl
  | cons part rest inductionHypothesis =>
      simp only [List.cons_append, resolveParts, Prog.bind_assoc_apply]
      exact Prog.bind_congr_apply
        (fun next _ _ => inductionHypothesis next)

/-! ## Creating an entry -/

theorem firstFree_readOnly
    (slots : List Nat) :
    Prog.ReadOnly (firstFree slots) := by
  induction slots with
  | nil =>
      exact .pure _
  | cons slot rest inductionHypothesis =>
      exact .bind (readInode_readOnly _)
        (fun _ => .ite (.pure _) inductionHypothesis)

theorem firstFree_apply
    {slots : List Nat}
    (areSlots : ∀ slot ∈ slots, IsSlot slot) :
    firstFree slots disk =
      .ok ((slots.find? fun slot =>
        decide ((disk.inode slot).kind = 0)).getD 0) disk := by
  induction slots with
  | nil =>
      rfl
  | cons slot rest inductionHypothesis =>
      have later :=
        inductionHypothesis
          (fun other member => areSlots other (by simp [member]))
      rw [firstFree, Prog.bind_of_ok
        (readInode_of_isSlot (areSlots slot (by simp)))]
      by_cases isFree : (disk.inode slot).kind = 0
      · simp [isFree]
      · simpa [isFree] using later

theorem mem_inodeSlots :
    slot ∈ inodeSlots ↔ IsSlot slot := by
  simp only [inodeSlots, List.mem_range'_1, IsSlot]
  omega

/-- What `create_entry` has checked when it starts to write. -/
structure Creation
    (disk : Disk)
    (path : List UInt8)
    (cwd directory fresh : Nat) : Prop where
  parent :
    parentInode (splitParent path).1 cwd disk = .ok directory disk
  directorySlot : IsSlot directory
  directoryKind : (disk.inode directory).kind = 2
  noDuplicate :
    walkSiblings
        (fun entry => entry.nameSlice == (splitParent path).2)
        walkFuel (disk.inode directory).firstChild disk =
      .ok 0 disk
  scanned : firstFree inodeSlots disk = .ok fresh disk
  freshSlot : IsSlot fresh
  freshFree : (disk.inode fresh).kind = 0

/-- The disk with a new entry in a directory. -/
def Disk.created
    (disk : Disk)
    (path : List UInt8)
    (kind mode uid gid directory fresh : Nat) :
    Disk :=
  { disk with
    inode :=
      enter disk.inode directory fresh
        (newEntry kind mode uid gid directory
          (disk.inode directory).firstChild (splitParent path).2) }

theorem Creation.different
    {cwd directory fresh : Nat}
    (checked : Creation disk path cwd directory fresh) :
    fresh ≠ directory := by
  intro same
  have free := checked.freshFree
  rw [same, checked.directoryKind] at free
  cases free

theorem Creation.created_fresh
    {cwd kind mode uid gid directory fresh : Nat}
    (checked : Creation disk path cwd directory fresh) :
    (disk.created path kind mode uid gid directory fresh).inode fresh =
      newEntry kind mode uid gid directory
        (disk.inode directory).firstChild (splitParent path).2 :=
  enter_fresh checked.different

theorem firstFree_found
    {fresh : Nat}
    (scanned : firstFree inodeSlots disk = .ok fresh final)
    (nonzero : fresh ≠ 0) :
    IsSlot fresh ∧ (disk.inode fresh).kind = 0 := by
  rw [firstFree_apply (fun _ => mem_inodeSlots.mp)] at scanned
  cases found :
      inodeSlots.find? fun slot =>
        decide ((disk.inode slot).kind = 0) with
  | none =>
      rw [found] at scanned
      cases scanned
      exact (nonzero rfl).elim
  | some slot =>
      rw [found] at scanned
      cases scanned
      exact ⟨mem_inodeSlots.mp (List.mem_of_find?_eq_some found),
        by simpa using List.find?_some found⟩

theorem createEntry_eq_ok
    {cwd kind mode uid gid fresh : Nat} :
    createEntry path cwd kind mode uid gid disk = .ok fresh final ↔
      ∃ directory,
        Creation disk path cwd directory fresh ∧
          final =
            disk.created path kind mode uid gid directory fresh := by
  constructor
  · intro returned
    unfold createEntry at returned
    simp only at returned
    obtain ⟨directory, parent, later⟩ :=
      (parentInode_readOnly _ _).of_bind_ok returned
    obtain ⟨record, read, later⟩ :=
      (readInode_readOnly _).of_bind_ok later
    obtain ⟨directorySlot, rfl, _⟩ := readInode_eq_ok.mp read
    split at later
    · cases later
    rename_i isDirectory
    obtain ⟨duplicate, walked, later⟩ :=
      (walkSiblings_readOnly _ _ _).of_bind_ok later
    split at later
    · cases later
    rename_i noDuplicate
    obtain ⟨slot, scanned, later⟩ :=
      (firstFree_readOnly _).of_bind_ok later
    split at later
    · cases later
    rename_i nonzero
    cases later
    obtain ⟨freshSlot, freshFree⟩ := firstFree_found scanned nonzero
    refine ⟨directory, ?_, rfl⟩
    exact {
      parent := parent
      directorySlot := directorySlot
      directoryKind := not_not.mp isDirectory
      noDuplicate := not_not.mp noDuplicate ▸ walked
      scanned := scanned
      freshSlot := freshSlot
      freshFree := freshFree
    }
  · rintro ⟨directory, checked, rfl⟩
    unfold createEntry
    simp only
    rw [Prog.bind_of_ok checked.parent,
      Prog.bind_of_ok (readInode_of_isSlot checked.directorySlot),
      if_neg (not_not.mpr checked.directoryKind),
      Prog.bind_of_ok checked.noDuplicate,
      if_neg (not_not.mpr rfl),
      Prog.bind_of_ok checked.scanned,
      if_neg checked.freshSlot.ne_zero]
    rfl

theorem createEntry_eq_err
    {cwd kind mode uid gid : Nat}
    (failed :
      createEntry path cwd kind mode uid gid disk = .err error final) :
    final = disk := by
  unfold createEntry at failed
  simp only at failed
  rcases (parentInode_readOnly _ _).of_bind_err failed with
      ⟨_, same⟩ | ⟨directory, _, afterParent⟩
  · exact same
  rcases (readInode_readOnly _).of_bind_err afterParent with
      ⟨_, same⟩ | ⟨record, _, afterRead⟩
  · exact same
  split at afterRead
  · cases afterRead
    rfl
  rcases (walkSiblings_readOnly _ _ _).of_bind_err afterRead with
      ⟨_, same⟩ | ⟨duplicate, _, afterWalk⟩
  · exact same
  split at afterWalk
  · cases afterWalk
    rfl
  rcases (firstFree_readOnly _).of_bind_err afterWalk with
      ⟨_, same⟩ | ⟨slot, _, afterScan⟩
  · exact same
  split at afterScan
  · cases afterScan
    rfl
  · cases afterScan

theorem resolveOrCreate_eq_ok
    {cwd uid gid ino : Nat}
    (returned : resolveOrCreate path cwd uid gid disk = .ok ino final) :
    (resolveWith path cwd disk = .ok ino disk ∧ final = disk) ∨
      (resolveWith path cwd disk = .err .notFound disk ∧
        createEntry path cwd 1 0o644 uid gid disk = .ok ino final) := by
  unfold resolveOrCreate at returned
  split at returned
  case h_1 middle missing =>
    obtain rfl := (resolveWith_readOnly _ _).2 missing
    exact Or.inr ⟨missing, returned⟩
  case h_2 =>
    obtain rfl := (resolveWith_readOnly _ _).1 returned
    exact Or.inl ⟨returned, rfl⟩

theorem resolveOrCreate_eq_err
    {cwd uid gid : Nat}
    (failed : resolveOrCreate path cwd uid gid disk = .err error final) :
    final = disk := by
  unfold resolveOrCreate at failed
  split at failed
  case h_1 middle missing =>
    obtain rfl := (resolveWith_readOnly _ _).2 missing
    exact createEntry_eq_err failed
  case h_2 =>
    exact (resolveWith_readOnly _ _).2 failed

/-! ## Unlinking -/

/-- The disk with a child detached from its directory's chain. -/
def Disk.detached
    (disk : Disk)
    (directory target previous : Nat) :
    Disk :=
  { disk with inode := detach disk.inode directory target previous }

theorem unlinkFrom_eq_ok
    {parentIno childIno fuel current previous : Nat}
    (returned :
      unlinkFrom parentIno childIno (disk.inode parentIno)
          fuel current previous disk =
        .ok () final) :
    ∃ before, final = disk.detached parentIno childIno before := by
  induction fuel generalizing current previous with
  | zero =>
      unfold unlinkFrom at returned
      split at returned <;> cases returned
  | succ fuel inductionHypothesis =>
      unfold unlinkFrom at returned
      split at returned
      case isTrue =>
        cases returned
      case isFalse =>
        split at returned
        case isTrue isChild =>
          obtain ⟨child, read, later⟩ :=
            (readInode_readOnly _).of_bind_ok returned
          obtain ⟨_, rfl, _⟩ := readInode_eq_ok.mp read
          refine ⟨previous, ?_⟩
          split at later
          case isTrue atHead =>
            cases later
            simp [Disk.detached, detach, atHead, isChild]
          case isFalse behind =>
            obtain ⟨before, read, later⟩ :=
              (readInode_readOnly _).of_bind_ok later
            obtain ⟨_, rfl, _⟩ := readInode_eq_ok.mp read
            cases later
            simp [Disk.detached, detach, behind, isChild]
        case isFalse =>
          obtain ⟨entry, _, later⟩ :=
            (readInode_readOnly _).of_bind_ok returned
          exact inductionHypothesis later

theorem unlinkFrom_eq_err
    {parentIno childIno fuel current previous : Nat}
    {parent : Inode}
    (failed :
      unlinkFrom parentIno childIno parent fuel current previous disk =
        .err error final) :
    final = disk := by
  induction fuel generalizing current previous with
  | zero =>
      unfold unlinkFrom at failed
      split at failed <;> cases failed
      rfl
  | succ fuel inductionHypothesis =>
      unfold unlinkFrom at failed
      split at failed
      case isTrue =>
        cases failed
        rfl
      case isFalse =>
        split at failed
        case isTrue =>
          rcases (readInode_readOnly _).of_bind_err failed with
              ⟨_, same⟩ | ⟨child, _, afterRead⟩
          · exact same
          split at afterRead
          case isTrue =>
            cases afterRead
          case isFalse =>
            rcases (readInode_readOnly _).of_bind_err afterRead with
                ⟨_, same⟩ | ⟨before, _, afterBefore⟩
            · exact same
            · cases afterBefore
        case isFalse =>
          rcases (readInode_readOnly _).of_bind_err failed with
              ⟨_, same⟩ | ⟨entry, _, afterRead⟩
          · exact same
          · exact inductionHypothesis afterRead

theorem unlinkFrom_chain
    {parentIno childIno fuel current previous : Nat}
    {front back : List Nat}
    (chain :
      Chain (siblings disk.inode) current (front ++ childIno :: back))
    (slots : ∀ cell ∈ front ++ childIno :: back, IsSlot cell)
    (previousSlot : previous = 0 ∨ IsSlot previous)
    (short : front.length < fuel) :
    unlinkFrom parentIno childIno (disk.inode parentIno)
        fuel current previous disk =
      .ok ()
        (disk.detached parentIno childIno (front.getLastD previous)) := by
  have distinct := chain.nodup
  induction front generalizing fuel current previous with
  | nil =>
      obtain ⟨rfl, nonzero, _⟩ := chain
      have isSlot := slots current (by simp)
      cases fuel with
      | zero =>
          simp at short
      | succ fuel =>
          unfold unlinkFrom
          rw [if_neg nonzero, if_pos rfl,
            Prog.bind_of_ok (readInode_of_isSlot isSlot)]
          by_cases atHead : previous = 0
          · simp [atHead, Disk.detached, detach]
          · have behind := previousSlot.resolve_left atHead
            rw [if_neg atHead,
              Prog.bind_of_ok (readInode_of_isSlot behind)]
            change Outcome.ok _ _ = Outcome.ok _ _
            simp [Disk.detached, detach, atHead]
  | cons first rest inductionHypothesis =>
      obtain ⟨rfl, nonzero, later⟩ := chain
      have isSlot := slots current (by simp)
      have notChild : current ≠ childIno := by
        intro same
        simp [same] at distinct
      cases fuel with
      | zero =>
          simp at short
      | succ fuel =>
          unfold unlinkFrom
          rw [if_neg nonzero, if_neg notChild,
            Prog.bind_of_ok (readInode_of_isSlot isSlot)]
          have continued :=
            @inductionHypothesis fuel _ current later
              (fun cell member => slots cell (by simp [member]))
              (Or.inr isSlot)
              (by simpa using short)
              (List.nodup_cons.mp distinct).2
          rw [List.getLastD_cons]
          exact continued

theorem precedes_getLastD
    (front : List Nat) :
    Precedes (front.getLastD 0) front := by
  rcases List.eq_nil_or_concat front with isEmpty | ⟨earlier, last, shape⟩
  · exact Or.inl ⟨by simp [isEmpty], isEmpty⟩
  · exact Or.inr ⟨earlier, by simp [shape]⟩

theorem unlinkChild_eq_ok
    {parentIno childIno : Nat}
    (returned : unlinkChild parentIno childIno disk = .ok () final) :
    ∃ before, final = disk.detached parentIno childIno before := by
  obtain ⟨parent, read, later⟩ :=
    (readInode_readOnly _).of_bind_ok returned
  obtain ⟨_, rfl, _⟩ := readInode_eq_ok.mp read
  exact unlinkFrom_eq_ok later

theorem unlinkChild_eq_err
    {parentIno childIno : Nat}
    (failed : unlinkChild parentIno childIno disk = .err error final) :
    final = disk := by
  rcases (readInode_readOnly _).of_bind_err failed with
      ⟨_, same⟩ | ⟨parent, _, later⟩
  · exact same
  · exact unlinkFrom_eq_err later

/-! ## Programs that leave the inode table alone -/

/-- Both exits leave every inode record as it is. -/
def KeepsTable
    {α : Type}
    (program : Fs α) : Prop :=
  ∀ table, Prog.Keeps (fun disk => disk.inode = table) program

namespace KeepsTable

variable {α : Type} {program : Fs α}

theorem of_readOnly
    (reads : Prog.ReadOnly program) :
    KeepsTable program :=
  fun _ => .of_readOnly reads

theorem ok
    (keeps : KeepsTable program)
    {value : α}
    (returned : program disk = .ok value final) :
    final.inode = disk.inode :=
  (keeps _ disk rfl).1 value final returned

end KeepsTable

theorem readRange_readOnly
    (offset : Nat) :
    Prog.ReadOnly (readRange offset) :=
  .gets _

theorem writeRange_keepsTable
    (offset length : Nat)
    (buffer : Nat → UInt8) :
    KeepsTable (writeRange offset length buffer) :=
  fun _ => .modify (fun _ same => same)

theorem loadBitmapFrom_readOnly
    (remaining index offset : Nat)
    (bitmap : Bitmap) :
    Prog.ReadOnly (loadBitmapFrom remaining index offset bitmap) := by
  induction remaining generalizing index offset bitmap with
  | zero =>
      exact .pure _
  | succ remaining inductionHypothesis =>
      exact .bind (readRange_readOnly _)
        (fun _ => inductionHypothesis _ _ _)

theorem loadBitmap_readOnly
    (candidate : FsMeta) :
    Prog.ReadOnly (loadBitmap candidate) :=
  loadBitmapFrom_readOnly _ _ _ _

theorem storeBitmapFrom_keepsTable
    (remaining index offset : Nat)
    (block : Nat → UInt8) :
    KeepsTable
      (storeBitmapFrom bitmap remaining index offset block) := by
  intro table
  induction remaining generalizing index offset block with
  | zero =>
      exact .of_readOnly (.pure _)
  | succ remaining inductionHypothesis =>
      exact .bind (writeRange_keepsTable _ _ _ table)
        (fun _ => inductionHypothesis _ _ _)

theorem checkBitmapIndex_readOnly :
    Prog.ReadOnly (checkBitmapIndex block) :=
  .ite (.pure _) .hang

theorem setBit_readOnly :
    Prog.ReadOnly (setBit bitmap block) :=
  .bind (checkBitmapIndex_readOnly _) (fun _ => .pure _)

theorem clearBit_readOnly :
    Prog.ReadOnly (clearBit bitmap block) :=
  .bind (checkBitmapIndex_readOnly _) (fun _ => .pure _)

theorem changeRun_readOnly
    {change : Bitmap → Nat → Fs Bitmap}
    (reads : ∀ bitmap block, Prog.ReadOnly (change bitmap block))
    (bitmap : Bitmap)
    (start count : Nat) :
    Prog.ReadOnly (changeRun change bitmap start count) := by
  induction count generalizing bitmap start with
  | zero =>
      exact .pure _
  | succ count inductionHypothesis =>
      exact .bind (reads _ _) (fun _ => inductionHypothesis _ _)

theorem findRun_readOnly
    (needed : Nat)
    (blocks : List Nat)
    (start found : Nat) :
    Prog.ReadOnly (findRun bitmap needed blocks start found) := by
  induction blocks generalizing start found with
  | nil =>
      exact .pure _
  | cons block rest inductionHypothesis =>
      exact .bind
        (.bind (checkBitmapIndex_readOnly _) (fun _ => .pure _))
        (fun _ => .ite (inductionHypothesis _ _)
          (.ite (.pure _) (inductionHypothesis _ _)))

theorem writeBlocks_keepsTable
    (remaining block : Nat)
    (data : List UInt8) :
    KeepsTable (writeBlocks remaining block data) := by
  intro table
  induction remaining generalizing block data with
  | zero =>
      exact .of_readOnly (.pure _)
  | succ remaining inductionHypothesis =>
      exact .bind (writeRange_keepsTable _ _ _ table)
        (fun _ => inductionHypothesis _ _)

theorem freeExtent_keepsTable
    (candidate : FsMeta)
    (start count : Nat) :
    KeepsTable (freeExtent candidate start count) := by
  intro table
  exact .bind (.of_readOnly (loadBitmap_readOnly _))
    (fun _ => .bind
      (.of_readOnly (changeRun_readOnly clearBit_readOnly _ _ _))
      (fun _ => storeBitmapFrom_keepsTable _ _ _ _ _ table))

/-! ## Programs that do not fail -/

theorem loadBitmapFrom_neverFails
    (remaining index offset : Nat)
    (bitmap : Bitmap) :
    Prog.NeverFails (loadBitmapFrom remaining index offset bitmap) := by
  induction remaining generalizing index offset bitmap with
  | zero =>
      exact .pure _
  | succ remaining inductionHypothesis =>
      exact .bind (.gets _) (fun _ => inductionHypothesis _ _ _)

theorem storeBitmapFrom_neverFails
    (remaining index offset : Nat)
    (block : Nat → UInt8) :
    Prog.NeverFails
      (storeBitmapFrom bitmap remaining index offset block) := by
  induction remaining generalizing index offset block with
  | zero =>
      exact .pure _
  | succ remaining inductionHypothesis =>
      exact .bind (.modify _) (fun _ => inductionHypothesis _ _ _)

theorem checkBitmapIndex_neverFails :
    Prog.NeverFails (checkBitmapIndex block) :=
  .ite (.pure _) .hang

theorem changeRun_neverFails
    {change : Bitmap → Nat → Fs Bitmap}
    (returns : ∀ bitmap block, Prog.NeverFails (change bitmap block))
    (bitmap : Bitmap)
    (start count : Nat) :
    Prog.NeverFails (changeRun change bitmap start count) := by
  induction count generalizing bitmap start with
  | zero =>
      exact .pure _
  | succ count inductionHypothesis =>
      exact .bind (returns _ _) (fun _ => inductionHypothesis _ _)

theorem findRun_neverFails
    (needed : Nat)
    (blocks : List Nat)
    (start found : Nat) :
    Prog.NeverFails (findRun bitmap needed blocks start found) := by
  induction blocks generalizing start found with
  | nil =>
      exact .pure _
  | cons block rest inductionHypothesis =>
      exact .bind
        (.bind (checkBitmapIndex_neverFails _) (fun _ => .pure _))
        (fun _ => .ite (inductionHypothesis _ _)
          (.ite (.pure _) (inductionHypothesis _ _)))

theorem writeBlocks_neverFails
    (remaining block : Nat)
    (data : List UInt8) :
    Prog.NeverFails (writeBlocks remaining block data) := by
  induction remaining generalizing block data with
  | zero =>
      exact .pure _
  | succ remaining inductionHypothesis =>
      exact .bind (.modify _) (fun _ => inductionHypothesis _ _)

theorem freeExtent_neverFails
    (candidate : FsMeta)
    (start count : Nat) :
    Prog.NeverFails (freeExtent candidate start count) :=
  .bind (loadBitmapFrom_neverFails _ _ _ _)
    (fun _ => .bind
      (changeRun_neverFails
        (fun _ _ => .bind (checkBitmapIndex_neverFails _)
          (fun _ => .pure _)) _ _ _)
      (fun _ => storeBitmapFrom_neverFails _ _ _ _ _))

/-! ## Writing a file -/

/-- The record of a file that has been written. -/
def Inode.rewritten
    (inode : Inode)
    (start count size : Nat) :
    Inode :=
  { inode with
    startBlock := start
    blockCount := count
    size := size }

theorem placeData_table
    (returned : placeData candidate ino inode data disk = .ok () final) :
    ∃ start count,
      final.inode =
        Function.update disk.inode ino
          (inode.rewritten start count data.length) := by
  unfold placeData at returned
  simp only at returned
  split at returned
  case isTrue =>
    obtain ⟨bitmap, _, later⟩ :=
      (loadBitmap_readOnly _).of_bind_ok returned
    obtain ⟨⟨start, found⟩, _, later⟩ :=
      (findRun_readOnly _ _ _ _ _).of_bind_ok later
    simp only at later
    split at later
    case isTrue =>
      cases later
    case isFalse =>
      obtain ⟨marked, _, later⟩ :=
        (changeRun_readOnly setBit_readOnly _ _ _).of_bind_ok later
      obtain ⟨_, stored, store, later⟩ := Prog.bind_eq_ok.mp later
      obtain ⟨_, written, write, later⟩ := Prog.bind_eq_ok.mp later
      cases later
      refine ⟨start, neededBlocks data, ?_⟩
      simp only [(writeBlocks_keepsTable _ _ _).ok write,
        (storeBitmapFrom_keepsTable _ _ _ _ _).ok store]
      rfl
  case isFalse =>
    cases returned
    exact ⟨0, 0, rfl⟩

theorem placeData_eq_err
    (failed :
      placeData candidate ino inode data disk = .err error final) :
    error = .noSpace ∧ final = disk := by
  unfold placeData at failed
  simp only at failed
  split at failed
  case isTrue =>
    rcases (loadBitmap_readOnly _).of_bind_err failed with
        ⟨loadFailed, _⟩ | ⟨bitmap, _, afterLoad⟩
    · exact (loadBitmapFrom_neverFails _ _ _ _ _ _ _ loadFailed).elim
    rcases (findRun_readOnly _ _ _ _ _).of_bind_err afterLoad with
        ⟨findFailed, _⟩ | ⟨⟨start, found⟩, _, afterFind⟩
    · exact (findRun_neverFails _ _ _ _ _ _ _ _ findFailed).elim
    simp only at afterFind
    split at afterFind
    case isTrue =>
      cases afterFind
      exact ⟨rfl, rfl⟩
    case isFalse =>
      refine absurd afterFind (Prog.NeverFails.bind ?_ ?_ _ _ _)
      · exact changeRun_neverFails
          (fun _ _ => .bind (checkBitmapIndex_neverFails _)
            (fun _ => .pure _)) _ _ _
      · intro marked
        exact .bind (storeBitmapFrom_neverFails _ _ _ _ _)
          (fun _ => .bind (writeBlocks_neverFails _ _ _)
            (fun _ => .modify _))
  case isFalse =>
    cases failed

theorem releaseBlocks_keepsTable
    (candidate : FsMeta)
    (inode : Inode) :
    KeepsTable (releaseBlocks candidate inode) := by
  unfold releaseBlocks
  split
  · exact freeExtent_keepsTable _ _ _
  · exact .of_readOnly (.pure _)

theorem releaseBlocks_neverFails
    (candidate : FsMeta)
    (inode : Inode) :
    Prog.NeverFails (releaseBlocks candidate inode) :=
  .ite (freeExtent_neverFails _ _ _) (.pure _)

theorem rewriteFile_eq_ok
    (returned : rewriteFile candidate ino data disk = .ok () final) :
    IsSlot ino ∧
      (disk.inode ino).kind = 1 ∧
      neededBlocks data ≤ maxFileBlocks ∧
      ∃ middle,
        releaseBlocks candidate (disk.inode ino) disk = .ok () middle ∧
          placeData candidate ino (disk.inode ino) data middle =
            .ok () final := by
  obtain ⟨inode, read, later⟩ :=
    (readInode_readOnly _).of_bind_ok returned
  obtain ⟨isSlot, rfl, _⟩ := readInode_eq_ok.mp read
  split at later
  · cases later
  rename_i isFile
  split at later
  · cases later
  rename_i fits
  obtain ⟨_, middle, released, placed⟩ := Prog.bind_eq_ok.mp later
  exact ⟨isSlot, not_not.mp isFile, not_lt.mp fits,
    middle, released, placed⟩

theorem rewriteFile_eq_err
    (isSlot : IsSlot ino)
    (failed : rewriteFile candidate ino data disk = .err error final) :
    (error = .isDir ∧ (disk.inode ino).kind ≠ 1 ∧ final = disk) ∨
      (error = .tooLarge ∧
        (disk.inode ino).kind = 1 ∧
        maxFileBlocks < neededBlocks data ∧
        final = disk) ∨
      (error = .noSpace ∧
        (disk.inode ino).kind = 1 ∧
        neededBlocks data ≤ maxFileBlocks ∧
        releaseBlocks candidate (disk.inode ino) disk = .ok () final ∧
        placeData candidate ino (disk.inode ino) data final =
          .err .noSpace final) := by
  unfold rewriteFile at failed
  rw [Prog.bind_of_ok (readInode_of_isSlot isSlot)] at failed
  split at failed
  case isTrue notFile =>
    cases failed
    exact Or.inl ⟨rfl, notFile, rfl⟩
  case isFalse isFile =>
    split at failed
    case isTrue tooLarge =>
      cases failed
      exact Or.inr (Or.inl ⟨rfl, not_not.mp isFile, tooLarge, rfl⟩)
    case isFalse fits =>
      rcases Prog.bind_eq_err.mp failed with
          releaseFailed | ⟨_, middle, released, placeFailed⟩
      · exact
          (releaseBlocks_neverFails _ _ _ _ _ releaseFailed).elim
      · obtain ⟨rfl, rfl⟩ := placeData_eq_err placeFailed
        exact Or.inr (Or.inr ⟨rfl, not_not.mp isFile, not_lt.mp fits,
          released, placeFailed⟩)

theorem rewriteFile_table
    (returned : rewriteFile candidate ino data disk = .ok () final) :
    ∃ start count,
      final.inode =
        Function.update disk.inode ino
          ((disk.inode ino).rewritten start count data.length) := by
  obtain ⟨_, _, _, middle, released, placed⟩ :=
    rewriteFile_eq_ok returned
  obtain ⟨start, count, table⟩ := placeData_table placed
  refine ⟨start, count, ?_⟩
  rw [table, (releaseBlocks_keepsTable _ _).ok released]

/-! ## Removing -/

theorem releaseFile_keepsTable
    (candidate : FsMeta)
    (inode : Inode) :
    KeepsTable (releaseFile candidate inode) := by
  unfold releaseFile
  split
  · exact releaseBlocks_keepsTable _ _
  · exact .of_readOnly (.pure _)

/-- The disk with an inode slot zeroed. -/
def Disk.zeroed (disk : Disk) (target : Nat) : Disk :=
  { disk with inode := Function.update disk.inode target Inode.zero }

theorem remove_eq_ok
    {cwd : Nat}
    (returned : remove candidate path cwd disk = .ok () final) :
    ∃ ino before middle,
      resolveWith path cwd disk = .ok ino disk ∧
        ino ≠ rootInode ∧
        IsSlot ino ∧
        IsSlot (disk.inode ino).parent ∧
        ¬ ((disk.inode ino).kind = 2 ∧
          (disk.inode ino).firstChild ≠ 0) ∧
        unlinkChild (disk.inode ino).parent ino disk =
          .ok () (disk.detached (disk.inode ino).parent ino before) ∧
        releaseFile candidate (disk.inode ino)
            (disk.detached (disk.inode ino).parent ino before) =
          .ok () middle ∧
        final = middle.zeroed ino := by
  obtain ⟨ino, resolved, later⟩ :=
    (resolveWith_readOnly _ _).of_bind_ok returned
  split at later
  · cases later
  rename_i notRoot
  obtain ⟨inode, read, later⟩ :=
    (readInode_readOnly _).of_bind_ok later
  obtain ⟨isSlot, rfl, _⟩ := readInode_eq_ok.mp read
  obtain ⟨parent, parentRead, later⟩ :=
    (readInode_readOnly _).of_bind_ok later
  obtain ⟨parentSlot, _, _⟩ := readInode_eq_ok.mp parentRead
  split at later
  · cases later
  rename_i mayGo
  obtain ⟨_, unlinked, unlink, later⟩ := Prog.bind_eq_ok.mp later
  obtain ⟨before, rfl⟩ := unlinkChild_eq_ok unlink
  obtain ⟨_, middle, released, later⟩ := Prog.bind_eq_ok.mp later
  cases later
  exact ⟨ino, before, middle, resolved, notRoot, isSlot, parentSlot,
    mayGo, unlink, released, rfl⟩

theorem remove_eq_err
    {cwd : Nat}
    (failed : remove candidate path cwd disk = .err error final) :
    final = disk := by
  unfold remove at failed
  rcases (resolveWith_readOnly _ _).of_bind_err failed with
      ⟨_, same⟩ | ⟨ino, _, afterResolve⟩
  · exact same
  split at afterResolve
  · cases afterResolve
    rfl
  rcases (readInode_readOnly _).of_bind_err afterResolve with
      ⟨_, same⟩ | ⟨inode, _, afterRead⟩
  · exact same
  rcases (readInode_readOnly _).of_bind_err afterRead with
      ⟨_, same⟩ | ⟨parent, _, afterParent⟩
  · exact same
  split at afterParent
  · cases afterParent
    rfl
  rcases Prog.bind_eq_err.mp afterParent with
      unlinkFailed | ⟨_, unlinked, _, afterUnlink⟩
  · exact unlinkChild_eq_err unlinkFailed
  · refine absurd afterUnlink (Prog.NeverFails.bind ?_ ?_ _ _ _)
    · exact .ite (releaseBlocks_neverFails _ _) (.pure _)
    · exact fun _ => .modify _

/-! ## Formatting -/

theorem reserveBlocks_readOnly
    (blocks : List Nat) :
    Prog.ReadOnly (reserveBlocks bitmap blocks) := by
  induction blocks generalizing bitmap with
  | nil =>
      exact .pure _
  | cons block rest inductionHypothesis =>
      exact .ite
        (.bind (setBit_readOnly _ _) (fun _ => inductionHypothesis _))
        (inductionHypothesis _)

theorem format_table
    {candidate written : FsMeta}
    (formatted : format candidate Disk.blank = .ok written final) :
    final.inode =
      Function.update (fun _ => Inode.zero) rootInode rootRecord := by
  obtain ⟨_, first, wrote, later⟩ := Prog.bind_eq_ok.mp formatted
  have firstTable := (writeRange_keepsTable _ _ _).ok wrote
  obtain ⟨bitmap, _, later⟩ :=
    (reserveBlocks_readOnly _ _).of_bind_ok later
  obtain ⟨_, second, stored, later⟩ := Prog.bind_eq_ok.mp later
  have secondTable := (storeBitmapFrom_keepsTable _ _ _ _ _).ok stored
  cases later
  funext slot
  simp only [secondTable, firstTable, Disk.blank, Function.update_apply,
    ite_self]

/-- A name for examples, `f`. -/
def sampleName : List UInt8 := [102]

section

variable (table :
      disk.inode =
        Function.update (fun _ => Inode.zero) rootInode rootRecord)

include table

theorem creation_formatted :
    Creation disk sampleName rootInode rootInode 2 := by
  have atRoot : disk.inode rootInode = rootRecord := by
    rw [table, Function.update_self]
  have atSecond : disk.inode 2 = Inode.zero := by
    rw [table, Function.update_of_ne (by decide)]
  have scanned : firstFree inodeSlots disk = .ok 2 disk := by
    rw [firstFree_apply (fun _ => mem_inodeSlots.mp)]
    have slots : inodeSlots = 1 :: 2 :: List.range' 3 4094 := rfl
    have first : disk.inode 1 = rootRecord := atRoot
    simp [slots, first, atSecond, rootRecord, Inode.zero]
  exact {
    parent := rfl
    directorySlot := isSlot_root
    directoryKind := by rw [atRoot]; rfl
    noDuplicate := by rw [atRoot]; rfl
    scanned := scanned
    freshSlot := by decide
    freshFree := by rw [atSecond]; rfl
  }

theorem missing_formatted :
    resolveWith sampleName rootInode disk = .err .notFound disk := by
  have atRoot : disk.inode rootInode = rootRecord := by
    rw [table, Function.update_self]
  have parts : components sampleName = [sampleName] := by decide
  have read := @readInode_of_isSlot disk rootInode isSlot_root
  have missing :
      resolvePart sampleName rootInode disk = .err .notFound disk := by
    unfold resolvePart
    rw [if_neg (by decide), Prog.bind_of_ok read, atRoot]
    rfl
  unfold resolveWith
  rw [if_neg (by decide), if_neg (by decide), parts]
  exact Prog.bind_of_err missing

theorem touch_formatted
    (uid gid : Nat) :
    ∃ final,
      touch sampleName rootInode uid gid disk = .ok () final ∧
        final.inode 2 =
          newEntry 1 0o644 uid gid rootInode 0 sampleName := by
  have created :=
    (@createEntry_eq_ok disk _ sampleName rootInode 1 0o644 uid gid 2).mpr
      ⟨rootInode, creation_formatted table, rfl⟩
  have found :
      resolveOrCreate sampleName rootInode uid gid disk =
        .ok 2 (disk.created sampleName 1 0o644 uid gid rootInode 2) := by
    unfold resolveOrCreate
    rw [missing_formatted table]
    exact created
  refine ⟨_, Prog.bind_of_ok found, ?_⟩
  have atRoot : disk.inode rootInode = rootRecord := by
    rw [table, Function.update_self]
  rw [(creation_formatted table).created_fresh, atRoot]
  rfl

end

end VibuxOS.Storage.Vfs
