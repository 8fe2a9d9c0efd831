import VibuxOS.Lib.Contents
import VibuxOS.Storage.VfsErrors
import VibuxOS.Storage.VfsNames

namespace VibuxOS.Storage.Vfs

open VibuxOS.Lib

/-!
# The contents of files

`read_file` and `read_file_bytes` of `storage/vfs.rs`, and what they return
after `write_file`.  The bitmap lies below the data area and the extent of
every other file apart from the run that a write takes, so a write shows in the
file it is about and nowhere else.
-/

variable {candidate : FsMeta} {disk final : Disk}

/-! ## Reading a file -/

/-- `b as char` -/
def charOf (byte : UInt8) : Char :=
  Char.ofNat byte.toNat

/-- The loop of `read_file`, with the characters it writes. -/
def readFileLoop (startBlock idx rem : Nat) : Fs (List Char) :=
  if rem = 0 then
    pure []
  else do
    let block ← readRange (blockBytes (startBlock + idx))
    let rest ← readFileLoop startBlock (idx + 1) (rem - min rem blockSize)
    pure ((window block 0 (min rem blockSize)).map charOf ++ rest)
termination_by rem
decreasing_by
  rename_i more
  simp only [blockSize]
  omega

/-- `read_file`, with the characters it writes -/
def readFile (path : List UInt8) (cwd : Nat) : Fs (List Char) := do
  let ino ← resolveWith path cwd
  let inode ← readInode ino
  if inode.kind ≠ 1 then
    Prog.fail .isDir
  else
    readFileLoop inode.startBlock 0 inode.size

/-- `read_file_bytes` into a buffer with a length -/
def readFileBytes
    (path : List UInt8)
    (cwd length : Nat)
    (out : Nat → UInt8) :
    Fs (Nat × (Nat → UInt8)) := do
  let ino ← resolveWith path cwd
  let inode ← readInode ino
  if inode.kind ≠ 1 then
    Prog.fail .isDir
  else if inode.size > length then
    Prog.fail .tooLarge
  else if inode.size ≠ 0 then do
    let bytes ← readRange (blockBytes inode.startBlock)
    pure (inode.size, blit out 0 bytes inode.size)
  else
    pure (inode.size, out)

/-- The bytes of a file, from the start of its extent. -/
def Disk.contents (disk : Disk) (slot : Nat) : List UInt8 :=
  window disk.bytes (blockBytes (disk.inode slot).startBlock)
    (disk.inode slot).size

theorem blockBytes_add
    (block count : Nat) :
    blockBytes (block + count) = blockBytes block + count * blockSize := by
  simp only [blockBytes, Nat.add_mul, Nat.add_assoc]

theorem readFileLoop_eq
    (startBlock idx rem : Nat) :
    readFileLoop startBlock idx rem disk =
      .ok
        ((window disk.bytes (blockBytes (startBlock + idx)) rem).map charOf)
        disk := by
  induction idx, rem using readFileLoop.induct with
  | case1 idx =>
      rw [readFileLoop, if_pos rfl]
      rfl
  | case2 idx rem more inductionHypothesis =>
      have split : rem = min rem blockSize + (rem - min rem blockSize) := by
        omega
      have first :
          window (fun index => disk.bytes (blockBytes (startBlock + idx) + index))
              0 (min rem blockSize) =
            window disk.bytes (blockBytes (startBlock + idx))
              (min rem blockSize) := by
        apply window_eq_iff.mpr
        intro index _
        rw [Nat.zero_add]
      have rest :
          window disk.bytes (blockBytes (startBlock + (idx + 1)))
              (rem - min rem blockSize) =
            window disk.bytes
              (blockBytes (startBlock + idx) + min rem blockSize)
              (rem - min rem blockSize) := by
        by_cases whole : blockSize ≤ rem
        · rw [Nat.min_eq_right whole, ← Nat.add_assoc, blockBytes_add,
            Nat.one_mul]
        · rw [Nat.min_eq_left (Nat.le_of_not_le whole), Nat.sub_self]
          rfl
      rw [readFileLoop, if_neg more, readRange, Prog.gets_bind_apply,
        Prog.bind_of_ok inductionHypothesis, first, rest]
      conv_rhs => rw [split, window_add, List.map_append]
      rfl

theorem readFile_eq
    {path : List UInt8}
    {cwd ino : Nat}
    (resolved : resolveWith path cwd disk = .ok ino disk)
    (isFile : IsFile disk.inode ino) :
    readFile path cwd disk =
      .ok ((disk.contents ino).map charOf) disk := by
  unfold readFile
  rw [Prog.bind_of_ok resolved, Prog.bind_of_ok (readInode_of_isSlot isFile.1),
    if_neg (not_not.mpr isFile.2), readFileLoop_eq]
  rfl

theorem readFileBytes_eq
    {path : List UInt8}
    {cwd ino length : Nat}
    (out : Nat → UInt8)
    (resolved : resolveWith path cwd disk = .ok ino disk)
    (isFile : IsFile disk.inode ino) :
    readFileBytes path cwd length out disk =
      if (disk.inode ino).size > length then
        .err .tooLarge disk
      else
        .ok
          ((disk.inode ino).size,
            blit out 0
              (fun index =>
                disk.bytes
                  (blockBytes (disk.inode ino).startBlock + index))
              (disk.inode ino).size)
          disk := by
  unfold readFileBytes
  rw [Prog.bind_of_ok resolved, Prog.bind_of_ok (readInode_of_isSlot isFile.1),
    if_neg (not_not.mpr isFile.2)]
  by_cases tooLarge : (disk.inode ino).size > length
  · rw [if_pos tooLarge, if_pos tooLarge]
    rfl
  · rw [if_neg tooLarge, if_neg tooLarge]
    by_cases empty : (disk.inode ino).size = 0
    · rw [if_neg (not_not.mpr empty), empty, blit_zero]
      rfl
    · rw [if_pos empty]
      rfl

/-! ## Programs that leave the data area alone -/

/-- Both exits leave every byte of the data area and behind it as it is. -/
def KeepsData
    {α : Type}
    (candidate : FsMeta)
    (program : Fs α) : Prop :=
  ∀ bytes : Nat → UInt8,
    Prog.Keeps
      (fun disk =>
        ∀ address,
          blockBytes candidate.dataStart ≤ address →
          disk.bytes address = bytes address)
      program

theorem KeepsData.ok
    {α : Type}
    {program : Fs α}
    {value : α}
    (keeps : KeepsData candidate program)
    (returned : program disk = .ok value final)
    (address : Nat)
    (inData : blockBytes candidate.dataStart ≤ address) :
    final.bytes address = disk.bytes address :=
  (keeps disk.bytes disk fun _ _ => rfl).1 value final returned address inData

theorem storeBitmapFrom_keepsData
    (bitmap : Bitmap)
    (remaining index offset : Nat)
    (block : Nat → UInt8)
    (fits : index + remaining ≤ candidate.bitmapBlocks) :
    KeepsData candidate
      (storeBitmapFrom bitmap remaining index offset block) := by
  intro bytes
  induction remaining generalizing index offset block with
  | zero =>
      exact .of_readOnly (.pure _)
  | succ remaining inductionHypothesis =>
      apply Prog.Keeps.bind
      · apply Prog.Keeps.modify
        intro disk same address inData
        have below :
            blockBytes (bitmapStart + index) + blockSize ≤
              blockBytes candidate.dataStart := by
          have next := blockBytes_add (bitmapStart + index) 1
          rw [Nat.one_mul] at next
          rw [← next]
          apply blockBytes_le
          unfold FsMeta.dataStart
          omega
        have outside :
            blockBytes (bitmapStart + index) + blockSize ≤ address :=
          Nat.le_trans below inData
        exact (blit_outside (Or.inr outside)).trans (same address inData)
      · intro _
        exact inductionHypothesis _ _ _ (by omega)

theorem storeBitmap_keepsData
    (bitmap : Bitmap) :
    KeepsData candidate (storeBitmap candidate bitmap) :=
  storeBitmapFrom_keepsData bitmap _ _ _ _ (Nat.le_of_eq (Nat.zero_add _))

theorem releaseBlocks_keepsData
    (inode : Inode) :
    KeepsData candidate (releaseBlocks candidate inode) := by
  intro bytes
  apply Prog.Keeps.ite
  · apply Prog.Keeps.bind (.of_readOnly (loadBitmap_readOnly _))
    intro bitmap
    apply Prog.Keeps.bind
      (.of_readOnly (changeRun_readOnly clearBit_readOnly _ _ _))
    intro cleared
    exact storeBitmap_keepsData cleared bytes
  · exact .of_readOnly (.pure _)

/-! ## Writing a file -/

theorem writeBlocks_eq
    (remaining block : Nat)
    (data : List UInt8) :
    writeBlocks remaining block data disk =
      .ok ()
        { disk with
          bytes :=
            blit disk.bytes (blockBytes block)
              (fun index => data.getD index 0) (remaining * blockSize) } := by
  induction remaining generalizing block data disk with
  | zero =>
      rw [Nat.zero_mul, blit_zero]
      rfl
  | succ remaining inductionHypothesis =>
      have first :
          blit disk.bytes (blockBytes block)
              (fun index => (data.take blockSize).getD index 0) blockSize =
            blit disk.bytes (blockBytes block)
              (fun index => data.getD index 0) blockSize := by
        apply blit_congr
        intro index inside
        rw [List.getD_eq_getElem?_getD, List.getD_eq_getElem?_getD,
          List.getElem?_take_of_lt inside]
      have rest :
          (fun index => (data.drop blockSize).getD index 0) =
            fun index => data.getD (blockSize + index) 0 := by
        funext index
        rw [List.getD_eq_getElem?_getD, List.getD_eq_getElem?_getD,
          List.getElem?_drop]
      rw [writeBlocks_succ, inductionHypothesis]
      dsimp only
      rw [first, rest, blockBytes_add, Nat.one_mul,
        @blit_blit _ disk.bytes (fun index => data.getD index 0),
        Nat.add_comm blockSize, ← Nat.succ_mul]

theorem placeData_bytes
    {ino : Nat}
    {inode : Inode}
    {data : List UInt8}
    (returned : placeData candidate ino inode data disk = .ok () final) :
    ∃ start,
      final.inode =
          Function.update disk.inode ino
            (inode.rewritten start (neededBlocks data) data.length) ∧
        ∀ address,
          blockBytes candidate.dataStart ≤ address →
          final.bytes address =
            blit disk.bytes (blockBytes start)
              (fun index => data.getD index 0)
              (neededBlocks data * blockSize) address := by
  unfold placeData at returned
  simp only at returned
  split at returned
  · obtain ⟨bitmap, _, afterLoad⟩ :=
      (loadBitmap_readOnly _).of_bind_ok returned
    obtain ⟨⟨start, found⟩, _, afterFind⟩ :=
      (findRun_readOnly _ _ _ _ _).of_bind_ok afterLoad
    simp only at afterFind
    split at afterFind
    · cases afterFind
    · obtain ⟨marked, _, afterMark⟩ :=
        (changeRun_readOnly setBit_readOnly _ _ _).of_bind_ok afterFind
      obtain ⟨_, stored, store, afterStore⟩ := Prog.bind_eq_ok.mp afterMark
      rw [Prog.bind_of_ok (writeBlocks_eq _ _ _)] at afterStore
      cases afterStore
      have table := (storeBitmapFrom_keepsTable _ _ _ _ _).ok store
      refine ⟨start, ?_, ?_⟩
      · dsimp only
        rw [table]
        rfl
      · intro address inData
        dsimp only
        exact blit_congr_target
          ((storeBitmap_keepsData marked).ok store address inData)
  · rename_i nothing
    have zero : neededBlocks data = 0 := Nat.eq_zero_of_not_pos nothing
    cases returned
    refine ⟨0, ?_, ?_⟩
    · rw [zero]
      rfl
    · intro address _
      rw [zero, Nat.zero_mul, blit_zero]

theorem Consistent.block_of_byte
    (consistent : Consistent candidate disk)
    {slot index : Nat}
    (isFile : IsFile disk.inode slot)
    (inside : index < (disk.inode slot).size) :
    (disk.inode slot).HasBlock
      ((disk.inode slot).startBlock + index / blockSize) := by
  have count := consistent.sizes isFile
  unfold blocksFor at count
  unfold Inode.HasBlock InRun
  rw [count]
  simp only [blockSize]
  omega

theorem block_of_blockBytes
    {start index other count : Nat}
    (lower : blockBytes other ≤ blockBytes start + index)
    (upper : blockBytes start + index < blockBytes other + count * blockSize) :
    InRun other count (start + index / blockSize) := by
  simp only [blockBytes, blockSize] at lower upper
  unfold InRun
  simp only [blockSize]
  omega

theorem Consistent.byte_inData
    (consistent : Consistent candidate disk)
    {slot index : Nat}
    (isFile : IsFile disk.inode slot)
    (inside : index < (disk.inode slot).size) :
    blockBytes candidate.dataStart ≤
      blockBytes (disk.inode slot).startBlock + index := by
  have lower :=
    (consistent.inside isFile (consistent.block_of_byte isFile inside)).1
  have above := blockBytes_le lower
  rw [blockBytes_add] at above
  have down := Nat.div_mul_le_self index blockSize
  omega

/-- What writing a file does to the contents of all files. -/
structure Rewritten
    (disk final : Disk)
    (ino : Nat)
    (data : List UInt8) : Prop where
  table :
    ∃ start count,
      final.inode =
        Function.update disk.inode ino
          ((disk.inode ino).rewritten start count data.length)
  contents : final.contents ino = data
  others :
    ∀ slot,
      IsFile disk.inode slot →
      slot ≠ ino →
      ∀ index,
        index < (disk.inode slot).size →
        final.bytes (blockBytes (disk.inode slot).startBlock + index) =
          disk.bytes (blockBytes (disk.inode slot).startBlock + index)

theorem length_le_neededBlocks
    {data : List UInt8}
    (fits : data.length ≤ maxFileBlocks * blockSize) :
    data.length ≤ neededBlocks data * blockSize := by
  have size : blockSize = 4096 := by
    simp only [blockSize]
  have most : maxFileBlocks = 1024 := rfl
  rw [most, size] at fits
  have small : (data.length + 4096 - 1) / 4096 < 2 ^ 32 := by
    omega
  have round :
      ∀ length : Nat, length ≤ (length + 4096 - 1) / 4096 * 4096 := by
    intro length
    omega
  have enough := round data.length
  have needed : neededBlocks data = (data.length + 4096 - 1) / 4096 := by
    unfold neededBlocks
    simp only [size]
    exact Nat.mod_eq_of_lt small
  rwa [← needed, ← size] at enough

theorem Consistent.rewritten
    (consistent : Consistent candidate disk)
    (geometry : Geometry candidate)
    {ino : Nat}
    {data : List UInt8}
    (fits : data.length ≤ maxFileBlocks * blockSize)
    (returned : rewriteFile candidate ino data disk = .ok () final) :
    Rewritten disk final ino data := by
  obtain ⟨isSlot, isFile, _, middle, released, placed⟩ :=
    rewriteFile_eq_ok returned
  have afterRelease := (releaseBlocks_keepsData (disk.inode ino)).ok released
  obtain ⟨bytes, exactly, cleared⟩ :=
    consistent.release geometry ⟨isSlot, isFile⟩ disk
  rw [exactly] at released
  cases released
  obtain ⟨start, table, written⟩ := placeData_bytes placed
  have enough := length_le_neededBlocks fits
  have atTarget :
      final.inode ino =
        (disk.inode ino).rewritten start (neededBlocks data)
          data.length := by
    rw [table, Function.update_self]
  -- The run is empty, or it was free when it was taken.
  have run :
      neededBlocks data = 0 ∨
        candidate.dataStart ≤ start ∧
          FreeRun (Disk.bit { disk with bytes := bytes }) start
            (neededBlocks data) := by
    rcases Nat.eq_zero_or_pos (neededBlocks data) with nothing | positive
    · exact Or.inl nothing
    · rcases @placeData_spec _ { disk with bytes := bytes } geometry ino
          (disk.inode ino) data positive with
        ⟨first, result, returns, allocated, resultTable⟩ | ⟨failed, _⟩
      · rw [returns] at placed
        cases placed
        rw [resultTable] at atTarget
        rw [Function.update_self] at atTarget
        have same : first = start := congrArg Inode.startBlock atTarget
        exact Or.inr ⟨same ▸ allocated.lower, same ▸ allocated.free⟩
      · rw [failed] at placed
        cases placed
  refine ⟨⟨start, _, table⟩, ?_, ?_⟩
  · have isWindow :
        final.contents ino =
          window (fun index => data.getD index 0) 0 data.length := by
      unfold Disk.contents
      rw [atTarget]
      apply window_eq_iff.mpr
      intro index inside
      dsimp only [Inode.rewritten] at inside ⊢
      rcases run with nothing | ⟨lower, _⟩
      · rw [nothing] at enough
        omega
      · have above := blockBytes_le lower
        rw [written _ (by omega), blit_inside (by omega) (by omega),
          Nat.add_sub_cancel_left, Nat.zero_add]
    rw [isWindow, window_getD]
  · intro slot otherFile different index inside
    have inData := consistent.byte_inData otherFile inside
    have hasBlock := consistent.block_of_byte otherFile inside
    have isData := consistent.inside otherFile hasBlock
    have held :
        Disk.bit { disk with bytes := bytes }
            ((disk.inode slot).startBlock + index / blockSize) = true := by
      rw [cleared _ isData]
      exact ⟨(consistent.exact isData).mpr ⟨slot, otherFile, hasBlock⟩,
        consistent.disjoint otherFile ⟨isSlot, isFile⟩ different hasBlock⟩
    rw [written _ inData, blit_outside]
    · exact afterRelease _ inData
    · by_contra meets
      rw [not_or, Nat.not_lt, Nat.not_le] at meets
      have inRun := block_of_blockBytes meets.1 meets.2
      rcases run with nothing | ⟨_, free⟩
      · rw [nothing] at inRun
        exact not_inRun_zero _ _ inRun
      · rw [free _ inRun.1 inRun.2] at held
        cases held

/-! ## Paths after a write -/

/-- Two records that a path walk cannot tell apart. -/
structure SameEntry (first second : Inode) : Prop where
  kind : first.kind = second.kind
  parent : first.parent = second.parent
  firstChild : first.firstChild = second.firstChild
  nextSibling : first.nextSibling = second.nextSibling
  name : first.nameSlice = second.nameSlice

theorem Rewritten.sameEntry
    {ino : Nat}
    {data : List UInt8}
    (rewritten : Rewritten disk final ino data)
    (slot : Nat) :
    SameEntry (final.inode slot) (disk.inode slot) := by
  obtain ⟨start, count, table⟩ := rewritten.table
  rw [table]
  by_cases isTarget : slot = ino
  · rw [isTarget, Function.update_self]
    exact ⟨rfl, rfl, rfl, rfl, rfl⟩
  · rw [Function.update_of_ne isTarget]
    exact ⟨rfl, rfl, rfl, rfl, rfl⟩

section SameEntries

variable (same : ∀ slot, SameEntry (final.inode slot) (disk.inode slot))

include same

theorem walkSiblings_same
    {stop : Inode → Bool}
    (stopSame :
      ∀ first second, SameEntry first second → stop first = stop second)
    {fuel child found : Nat}
    (returned : walkSiblings stop fuel child disk = .ok found disk) :
    walkSiblings stop fuel child final = .ok found final := by
  induction fuel generalizing child with
  | zero =>
      rw [walkSiblings] at returned ⊢
      split at returned
      · rename_i ended
        cases returned
        rw [if_pos ended]
        rfl
      · cases returned
  | succ fuel inductionHypothesis =>
      rw [walkSiblings] at returned ⊢
      split at returned
      · rename_i ended
        cases returned
        rw [if_pos ended]
        rfl
      · rename_i goesOn
        obtain ⟨entry, read, later⟩ :=
          (readInode_readOnly _).of_bind_ok returned
        obtain ⟨isSlot, rfl, _⟩ := readInode_eq_ok.mp read
        rw [if_neg goesOn, Prog.bind_of_ok (readInode_of_isSlot isSlot),
          stopSame _ _ (same child)]
        split at later
        · rename_i stops
          cases later
          rw [if_pos stops]
          rfl
        · rename_i passes
          rw [if_neg passes, (same child).nextSibling]
          exact inductionHypothesis later

theorem resolvePart_same
    {part : List UInt8}
    {current next : Nat}
    (resolved : resolvePart part current disk = .ok next disk) :
    resolvePart part current final = .ok next final := by
  unfold resolvePart at resolved ⊢
  split at resolved
  · rename_i isDotDot
    obtain ⟨inode, read, later⟩ :=
      (readInode_readOnly _).of_bind_ok resolved
    obtain ⟨isSlot, rfl, _⟩ := readInode_eq_ok.mp read
    cases later
    rw [if_pos isDotDot, Prog.bind_of_ok (readInode_of_isSlot isSlot),
      (same current).parent]
    rfl
  · rename_i isName
    obtain ⟨directory, read, afterRead⟩ :=
      (readInode_readOnly _).of_bind_ok resolved
    obtain ⟨isSlot, rfl, _⟩ := readInode_eq_ok.mp read
    rw [if_neg isName, Prog.bind_of_ok (readInode_of_isSlot isSlot),
      (same current).kind, (same current).firstChild]
    split at afterRead
    · cases afterRead
    · rename_i isDirectory
      obtain ⟨found, walked, afterWalk⟩ :=
        (walkSiblings_readOnly _ _ _).of_bind_ok afterRead
      have sameWalk :=
        walkSiblings_same same (by
          intro first second sameEntry
          rw [sameEntry.kind, sameEntry.name]) walked
      rw [if_neg isDirectory, Prog.bind_of_ok sameWalk]
      split at afterWalk
      · cases afterWalk
      · rename_i isFound
        cases afterWalk
        rw [if_neg isFound]
        rfl

theorem resolveParts_same
    {parts : List (List UInt8)}
    {current found : Nat}
    (resolved : resolveParts parts current disk = .ok found disk) :
    resolveParts parts current final = .ok found final := by
  induction parts generalizing current with
  | nil =>
      cases resolved
      rfl
  | cons part rest inductionHypothesis =>
      obtain ⟨next, step, later⟩ :=
        (resolvePart_readOnly _ _).of_bind_ok resolved
      exact (Prog.bind_of_ok (resolvePart_same same step)).trans
        (inductionHypothesis later)

theorem resolveWith_same
    {path : List UInt8}
    {cwd ino : Nat}
    (resolved : resolveWith path cwd disk = .ok ino disk) :
    resolveWith path cwd final = .ok ino final := by
  unfold resolveWith at resolved ⊢
  split at resolved
  · rename_i isRoot
    cases resolved
    rw [if_pos isRoot]
    rfl
  · rename_i notRoot
    rw [if_neg notRoot]
    split at resolved
    · rename_i absolute
      rw [if_pos absolute]
      exact resolveParts_same same resolved
    · rename_i relative
      rw [if_neg relative]
      exact resolveParts_same same resolved

end SameEntries

/-! ## Round trips -/

/-- A file reads as a list of bytes, through both calls. -/
structure ReadsAs
    (disk : Disk)
    (path : List UInt8)
    (cwd : Nat)
    (data : List UInt8) : Prop where
  bytes :
    ∀ length out,
      data.length ≤ length →
      ∃ filled,
        readFileBytes path cwd length out disk =
            .ok (data.length, filled) disk ∧
          window filled 0 data.length = data
  characters :
    readFile path cwd disk = .ok (data.map charOf) disk

theorem readsAs_contents
    {path : List UInt8}
    {cwd ino : Nat}
    (resolved : resolveWith path cwd disk = .ok ino disk)
    (isFile : IsFile disk.inode ino) :
    ReadsAs disk path cwd (disk.contents ino) := by
  have size : (disk.contents ino).length = (disk.inode ino).size :=
    length_window _ _ _
  constructor
  · intro length out enough
    rw [size] at enough ⊢
    have read := @readFileBytes_eq disk path cwd ino length out resolved isFile
    rw [if_neg (Nat.not_lt.mpr enough)] at read
    refine ⟨_, read, ?_⟩
    rw [window_blit_inside]
    apply window_eq_iff.mpr
    intro index _
    rw [Nat.zero_add]
  · exact readFile_eq resolved isFile

/--
After a write the file reads as the data that was written, and every other file
as it did before.
-/
theorem contents_round_trip
    (geometry : Geometry candidate)
    (sound : Sound candidate disk)
    {path data : List UInt8}
    {cwd uid gid ino : Nat}
    (resolved : resolveWith path cwd disk = .ok ino disk)
    (isFile : IsFile disk.inode ino)
    (fits : data.length ≤ maxFileBlocks * blockSize)
    (returned : writeFile candidate path cwd data uid gid disk = .ok () final) :
    ReadsAs final path cwd data ∧
      ∀ otherPath otherCwd other,
        resolveWith otherPath otherCwd disk = .ok other disk →
        IsFile disk.inode other →
        other ≠ ino →
        ReadsAs disk otherPath otherCwd (disk.contents other) ∧
          ReadsAs final otherPath otherCwd (disk.contents other) := by
  have found : resolveOrCreate path cwd uid gid disk = .ok ino disk := by
    unfold resolveOrCreate
    rw [resolved]
  unfold writeFile at returned
  rw [Prog.bind_of_ok found] at returned
  have rewritten :=
    sound.allocation.rewritten geometry fits returned
  have same := rewritten.sameEntry
  have fileAfter :
      ∀ slot, IsFile disk.inode slot → IsFile final.inode slot := by
    rintro slot ⟨isSlot, kind⟩
    exact ⟨isSlot, (same slot).kind.trans kind⟩
  constructor
  · have reads :=
      readsAs_contents (resolveWith_same same resolved) (fileAfter ino isFile)
    rwa [rewritten.contents] at reads
  · intro otherPath otherCwd other otherResolved otherFile different
    have before := readsAs_contents otherResolved otherFile
    have after :=
      readsAs_contents (resolveWith_same same otherResolved)
        (fileAfter other otherFile)
    have sameContents : final.contents other = disk.contents other := by
      obtain ⟨start, count, table⟩ := rewritten.table
      have sameRecord : final.inode other = disk.inode other := by
        rw [table, Function.update_of_ne different]
      unfold Disk.contents
      rw [sameRecord]
      exact window_eq_iff.mpr (rewritten.others other otherFile different)
    rw [sameContents] at after
    exact ⟨before, after⟩

/-- The data of the example, `h`. -/
def sampleData : List UInt8 := [104]

theorem writeFile_of_unused
    (geometry : Geometry candidate)
    (consistent : Consistent candidate disk)
    {path : List UInt8}
    {cwd uid gid ino : Nat}
    (resolved : resolveWith path cwd disk = .ok ino disk)
    (isFile : IsFile disk.inode ino)
    (noBlocks : (disk.inode ino).blockCount = 0)
    (unused :
      ∀ slot block,
        IsFile disk.inode slot →
        ¬ (disk.inode slot).HasBlock block) :
    ∃ final,
      writeFile candidate path cwd sampleData uid gid disk =
        .ok () final := by
  have needed : neededBlocks sampleData = 1 := by
    simp [neededBlocks, sampleData, blockSize]
  have found : resolveOrCreate path cwd uid gid disk = .ok ino disk := by
    unfold resolveOrCreate
    rw [resolved]
  have released :
      releaseBlocks candidate (disk.inode ino) disk = .ok () disk := by
    unfold releaseBlocks
    rw [noBlocks, if_neg (not_not.mpr rfl)]
    rfl
  have placed :
      ∃ final,
        placeData candidate ino (disk.inode ino) sampleData disk =
          .ok () final := by
    rcases @placeData_spec _ disk geometry ino (disk.inode ino) sampleData
        (by rw [needed]; decide) with
      ⟨_, final, returns, _⟩ | ⟨_, noRoom⟩
    · exact ⟨final, returns⟩
    · have below := geometry.dataBelow
      rw [needed] at noRoom
      refine absurd ?_ (noRoom candidate.dataStart (Nat.le_refl _) below)
      intro block lower upper
      have isData : candidate.IsData block := ⟨lower, by omega⟩
      rw [Bool.eq_false_iff]
      intro isSet
      obtain ⟨slot, file, hasBlock⟩ := (consistent.exact isData).mp isSet
      exact unused slot block file hasBlock
  obtain ⟨final, returns⟩ := placed
  refine ⟨final, ?_⟩
  unfold writeFile rewriteFile
  rw [Prog.bind_of_ok found, Prog.bind_of_ok (readInode_of_isSlot isFile.1),
    if_neg (not_not.mpr isFile.2), needed, if_neg (by decide),
    Prog.bind_of_ok released, returns]

theorem exists_touched :
    ∃ disk,
      Sound smallDisk disk ∧
        resolveWith sampleName rootInode disk = .ok 2 disk ∧
        disk.inode 2 = newEntry 1 0o644 0 0 rootInode 0 sampleName ∧
        ∀ slot, IsFile disk.inode slot → slot = 2 := by
  obtain ⟨fresh, formatted, consistent⟩ :=
    consistent_formatted geometry_smallDisk
  have table := format_table formatted
  have freshTree := treeInvariant_formatted formatted
  have unusedBefore :
      ∀ slot, slot ≠ rootInode → ¬ Used fresh.inode slot := by
    rintro slot notRoot ⟨_, used⟩
    rw [table, Function.update_of_ne notRoot] at used
    exact used rfl
  obtain ⟨touched, returned, entered⟩ := touch_formatted table 0 0
  have noData :
      blocksFor (Call.touch sampleName rootInode 0 0).dataLength < 2 ^ 32 := by
    change blocksFor 0 < 2 ^ 32
    rw [blocksFor_zero]
    decide
  have sound : Sound smallDisk touched :=
    ⟨(@TreeInvariant.call_keeps smallDisk (.touch sampleName rootInode 0 0) _
        freshTree).1 _ _ returned,
      consistent.callKeeps geometry_smallDisk _ noData returned⟩
  have missing :
      ∀ ino, resolve sampleName rootInode fresh ≠ .ok ino fresh := by
    intro ino resolved
    unfold resolve at resolved
    rw [missing_formatted table] at resolved
    cases resolved
  have fits : (Call.touch sampleName rootInode 0 0).FitsIn fresh := by
    intro path cwd target _
    cases target
    exact ⟨by decide, fun _ _ => rfl⟩
  have inRoot : IsSlot rootInode ∧ (fresh.inode rootInode).kind = 2 :=
    ⟨isSlot_root, freshTree.rootDirectory⟩
  obtain ⟨_, _, created, _, usedIff, resolved, _⟩ :=
    created_resolves (.formatted formatted) fits rfl inRoot missing returned
  have isSecond : 2 = created := by
    have used : Used touched.inode 2 := by
      refine ⟨by decide, ?_⟩
      rw [entered]
      decide
    rcases (usedIff 2).mp used with same | before
    · exact same
    · exact absurd before (unusedBefore 2 (by decide))
  rw [← isSecond] at usedIff resolved
  refine ⟨touched, sound, resolved, entered, ?_⟩
  rintro slot ⟨isSlot, isFile⟩
  rcases (usedIff slot).mp ⟨isSlot, by omega⟩ with same | before
  · exact same
  · by_cases isRoot : slot = rootInode
    · rw [isRoot, sound.tree.rootDirectory] at isFile
      cases isFile
    · exact absurd before (unusedBefore slot isRoot)

/-- After a write to `f`, `f` reads as the data. -/
theorem contents_round_trip_small :
    ∃ final, ReadsAs final sampleName rootInode sampleData := by
  obtain ⟨disk, sound, resolved, entered, only⟩ := exists_touched
  have isFile : IsFile disk.inode 2 := by
    refine ⟨by decide, ?_⟩
    rw [entered]
    rfl
  have noBlocks : (disk.inode 2).blockCount = 0 := by
    rw [entered]
    rfl
  have unused :
      ∀ slot block,
        IsFile disk.inode slot →
        ¬ (disk.inode slot).HasBlock block := by
    intro slot block file
    rw [only slot file]
    exact Inode.not_hasBlock noBlocks block
  obtain ⟨final, returned⟩ :=
    @writeFile_of_unused _ disk geometry_smallDisk sound.allocation sampleName
      rootInode 0 0 2 resolved isFile noBlocks unused
  have fits : sampleData.length ≤ maxFileBlocks * blockSize := by
    simp [sampleData, maxFileBlocks, blockSize]
  exact ⟨final, (contents_round_trip geometry_smallDisk sound resolved isFile
    fits returned).1⟩

end VibuxOS.Storage.Vfs
