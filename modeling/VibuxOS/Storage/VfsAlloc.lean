import VibuxOS.Storage.VfsBitmap

namespace VibuxOS.Storage.Vfs

open VibuxOS.Lib

/-!
# The allocation invariant

In a consistent state the bitmap and the extents of the files say the same
about the data area.  Every call touches the extent of one inode at most, so
one lemma about replacing the extent of a slot carries the invariant through
all of them.
-/

variable {candidate : FsMeta} {disk final : Disk}

variable {path : List UInt8}

/-- A slot that holds a regular file. -/
def IsFile (slots : Slots) (slot : Nat) : Prop :=
  IsSlot slot ∧ (slots slot).kind = 1

/-- The extent of a record contains a block. -/
def Inode.HasBlock (inode : Inode) (block : Nat) : Prop :=
  InRun inode.startBlock inode.blockCount block

def FsMeta.IsData (candidate : FsMeta) (block : Nat) : Prop :=
  candidate.dataStart ≤ block ∧ block < candidate.totalBlocks

/-- The blocks that hold a number of bytes. -/
def blocksFor (size : Nat) : Nat :=
  (size + blockSize - 1) / blockSize

/-- Bitmap and extents agree. -/
structure Consistent (candidate : FsMeta) (disk : Disk) : Prop where
  sizes :
    ∀ {slot},
      IsFile disk.inode slot →
      (disk.inode slot).blockCount = blocksFor (disk.inode slot).size
  inside :
    ∀ {slot},
      IsFile disk.inode slot →
      ∀ {block},
        (disk.inode slot).HasBlock block →
        candidate.IsData block
  disjoint :
    ∀ {slot other},
      IsFile disk.inode slot →
      IsFile disk.inode other →
      slot ≠ other →
      ∀ {block},
        (disk.inode slot).HasBlock block →
        ¬ (disk.inode other).HasBlock block
  exact :
    ∀ {block},
      candidate.IsData block →
      (disk.bit block = true ↔
        ∃ slot,
          IsFile disk.inode slot ∧ (disk.inode slot).HasBlock block)

/-! ## Replacing the extent of a slot -/

/-- Two records with the same kind, size and extent. -/
structure SameContents (first second : Inode) : Prop where
  kind : first.kind = second.kind
  size : first.size = second.size
  startBlock : first.startBlock = second.startBlock
  blockCount : first.blockCount = second.blockCount

namespace SameContents

variable {first second : Inode}

theorem hasBlock
    (same : SameContents first second)
    (block : Nat) :
    first.HasBlock block ↔ second.HasBlock block := by
  unfold Inode.HasBlock
  rw [same.startBlock, same.blockCount]

end SameContents

def Holds (slots : Slots) (slot block : Nat) : Prop :=
  (slots slot).kind = 1 ∧ (slots slot).HasBlock block

/--
What a call that gives `target` a new extent has done to the bits: the old
blocks of `target` are given back, the new ones were free or its own, and they
are marked.
-/
structure Reassigned
    (candidate : FsMeta)
    (disk final : Disk)
    (target : Nat) : Prop where
  others :
    ∀ slot,
      slot ≠ target →
      SameContents (final.inode slot) (disk.inode slot)
  sizes :
    (final.inode target).kind = 1 →
    (final.inode target).blockCount =
      blocksFor (final.inode target).size
  inside :
    ∀ {block},
      Holds final.inode target block →
      candidate.IsData block
  available :
    ∀ {block},
      Holds final.inode target block →
      disk.bit block = true →
      Holds disk.inode target block
  bits :
    ∀ {block},
      candidate.IsData block →
      (final.bit block = true ↔
        (disk.bit block = true ∧ ¬ Holds disk.inode target block) ∨
          Holds final.inode target block)

namespace Consistent

/-- Giving one slot a new extent keeps bitmap and extents in agreement. -/
theorem reassign
    (consistent : Consistent candidate disk)
    {target : Nat}
    (targetSlot : IsSlot target)
    (reassigned : Reassigned candidate disk final target) :
    Consistent candidate final := by
  have fileBefore :
      ∀ {slot},
        IsFile final.inode slot →
        slot ≠ target →
        IsFile disk.inode slot := by
    rintro slot ⟨isSlot, isFile⟩ other
    exact ⟨isSlot, (reassigned.others slot other).kind ▸ isFile⟩
  have notShared :
      ∀ {slot block},
        IsFile final.inode slot →
        slot ≠ target →
        (final.inode slot).HasBlock block →
        ¬ Holds final.inode target block := by
    rintro slot block isFile other hasBlock holds
    have wasFile := fileBefore isFile other
    have hadBlock :=
      ((reassigned.others slot other).hasBlock block).mp hasBlock
    have isData := consistent.inside wasFile hadBlock
    have wasSet : disk.bit block = true :=
      (consistent.exact isData).mpr ⟨slot, wasFile, hadBlock⟩
    obtain ⟨targetFile, targetBlock⟩ :=
      reassigned.available holds wasSet
    exact consistent.disjoint wasFile ⟨targetSlot, targetFile⟩ other
      hadBlock targetBlock
  refine {
    sizes := ?_
    inside := ?_
    disjoint := ?_
    exact := ?_
  }
  · intro slot isFile
    by_cases isTarget : slot = target
    · subst slot
      exact reassigned.sizes isFile.2
    · have same := reassigned.others slot isTarget
      rw [same.blockCount, same.size]
      exact consistent.sizes (fileBefore isFile isTarget)
  · intro slot isFile block hasBlock
    by_cases isTarget : slot = target
    · subst slot
      exact reassigned.inside ⟨isFile.2, hasBlock⟩
    · exact consistent.inside (fileBefore isFile isTarget)
        (((reassigned.others slot isTarget).hasBlock block).mp hasBlock)
  · intro slot other isFile otherFile different block hasBlock otherBlock
    by_cases isTarget : slot = target
    · subst slot
      exact notShared otherFile different.symm otherBlock
        ⟨isFile.2, hasBlock⟩
    · by_cases otherTarget : other = target
      · subst other
        exact notShared isFile isTarget hasBlock
          ⟨otherFile.2, otherBlock⟩
      · exact consistent.disjoint (fileBefore isFile isTarget)
          (fileBefore otherFile otherTarget) different
          (((reassigned.others slot isTarget).hasBlock block).mp hasBlock)
          (((reassigned.others other otherTarget).hasBlock block).mp
            otherBlock)
  · intro block isData
    rw [reassigned.bits isData, consistent.exact isData]
    constructor
    · rintro (⟨⟨slot, isFile, hasBlock⟩, notHeld⟩ | held)
      · have other : slot ≠ target := by
          rintro rfl
          exact notHeld ⟨isFile.2, hasBlock⟩
        have same := reassigned.others slot other
        exact ⟨slot, ⟨isFile.1, same.kind.trans isFile.2⟩,
          (same.hasBlock block).mpr hasBlock⟩
      · exact ⟨target, ⟨targetSlot, held.1⟩, held.2⟩
    · rintro ⟨slot, isFile, hasBlock⟩
      by_cases isTarget : slot = target
      · subst slot
        exact Or.inr ⟨isFile.2, hasBlock⟩
      · have wasFile := fileBefore isFile isTarget
        have hadBlock :=
          ((reassigned.others slot isTarget).hasBlock block).mp hasBlock
        refine Or.inl ⟨⟨slot, wasFile, hadBlock⟩, ?_⟩
        rintro ⟨targetFile, targetBlock⟩
        exact consistent.disjoint wasFile ⟨targetSlot, targetFile⟩
          isTarget hadBlock targetBlock

theorem extent_le
    (consistent : Consistent candidate disk)
    {slot : Nat}
    (isFile : IsFile disk.inode slot)
    (hasBlocks : (disk.inode slot).blockCount ≠ 0) :
    (disk.inode slot).startBlock + (disk.inode slot).blockCount ≤
      candidate.totalBlocks := by
  have last :
      (disk.inode slot).HasBlock
        ((disk.inode slot).startBlock +
          ((disk.inode slot).blockCount - 1)) := by
    unfold Inode.HasBlock InRun
    omega
  have upper := (consistent.inside isFile last).2
  omega

theorem release
    (consistent : Consistent candidate disk)
    (geometry : Geometry candidate)
    {slot : Nat}
    (isFile : IsFile disk.inode slot)
    (current : Disk) :
    ∃ bytes,
      releaseBlocks candidate (disk.inode slot) current =
          .ok () { current with bytes := bytes } ∧
        ∀ block,
          candidate.IsData block →
          (Disk.bit { current with bytes := bytes } block = true ↔
            current.bit block = true ∧
              ¬ (disk.inode slot).HasBlock block) := by
  obtain ⟨bytes, released, bits⟩ :=
    @releaseBlocks_spec _ current geometry (disk.inode slot)
      (consistent.extent_le isFile)
  refine ⟨bytes, released, ?_⟩
  intro block isData
  have covered := geometry.covered
  rw [bits block (by have upper := isData.2; omega)]
  simp [Inode.HasBlock]

end Consistent

/-! ## The calls -/

theorem enter_sameContents
    {slots : Slots}
    {directory fresh slot : Nat}
    {record : Inode}
    (other : slot ≠ fresh) :
    SameContents (enter slots directory fresh record slot)
      (slots slot) := by
  by_cases isDirectory : slot = directory
  · subst slot
    simp only [enter, Function.update_self]
    exact ⟨rfl, rfl, rfl, rfl⟩
  · rw [enter_other other isDirectory]
    exact ⟨rfl, rfl, rfl, rfl⟩

theorem detach_sameContents
    {slots : Slots}
    {directory target previous : Nat}
    (slot : Nat) :
    SameContents (detach slots directory target previous slot)
      (slots slot) := by
  unfold detach
  split
  case isTrue =>
    by_cases isDirectory : slot = directory
    · subst slot
      simp only [Function.update_self]
      exact ⟨rfl, rfl, rfl, rfl⟩
    · rw [Function.update_of_ne isDirectory]
      exact ⟨rfl, rfl, rfl, rfl⟩
  case isFalse =>
    by_cases isDirectory : slot = directory
    · subst slot
      simp only [Function.update_self]
      exact ⟨rfl, rfl, rfl, rfl⟩
    · rw [Function.update_of_ne isDirectory]
      by_cases isPrevious : slot = previous
      · subst slot
        simp only [Function.update_self]
        exact ⟨rfl, rfl, rfl, rfl⟩
      · rw [Function.update_of_ne isPrevious]
        exact ⟨rfl, rfl, rfl, rfl⟩

theorem Inode.not_hasBlock
    {inode : Inode}
    (isEmpty : inode.blockCount = 0)
    (block : Nat) :
    ¬ inode.HasBlock block := by
  unfold Inode.HasBlock
  rw [isEmpty]
  exact not_inRun_zero _ _

theorem blocksFor_zero : blocksFor 0 = 0 := by
  simp [blocksFor, blockSize]

namespace Consistent

section

variable (consistent : Consistent candidate disk)

include consistent

theorem created
    {cwd kind mode uid gid directory fresh : Nat}
    (checked : Creation disk path cwd directory fresh) :
    Consistent candidate
      (disk.created path kind mode uid gid directory fresh) := by
  have atFresh :=
    @Creation.created_fresh disk path cwd kind mode uid gid directory
      fresh checked
  have noBlock :
      ∀ block,
        ¬ Holds
          (disk.created path kind mode uid gid directory fresh).inode
          fresh block := by
    rintro block ⟨_, hasBlock⟩
    rw [atFresh] at hasBlock
    exact Inode.not_hasBlock rfl block hasBlock
  have wasFree : ∀ block, ¬ Holds disk.inode fresh block := by
    rintro block ⟨isFile, _⟩
    rw [checked.freshFree] at isFile
    cases isFile
  refine consistent.reassign checked.freshSlot {
    others := fun slot other => enter_sameContents other
    sizes := ?_
    inside := fun holds => (noBlock _ holds).elim
    available := fun holds => (noBlock _ holds).elim
    bits := ?_
  }
  · intro _
    rw [atFresh]
    exact blocksFor_zero.symm
  · intro block _
    simp only [noBlock, wasFree, not_false_eq_true, and_true, or_false]
    rfl

theorem createEntryKeeps
    {cwd kind mode uid gid fresh : Nat}
    (returned :
      createEntry path cwd kind mode uid gid disk = .ok fresh final) :
    Consistent candidate final := by
  obtain ⟨directory, checked, rfl⟩ := createEntry_eq_ok.mp returned
  exact consistent.created checked

theorem resolveOrCreateKeeps
    {cwd uid gid ino : Nat}
    (returned : resolveOrCreate path cwd uid gid disk = .ok ino final) :
    Consistent candidate final := by
  rcases resolveOrCreate_eq_ok returned with ⟨_, rfl⟩ | ⟨_, created⟩
  · exact consistent
  · exact consistent.createEntryKeeps created

theorem removeKeeps
    (geometry : Geometry candidate)
    {cwd : Nat}
    (returned : remove candidate path cwd disk = .ok () final) :
    Consistent candidate final := by
  obtain ⟨ino, before, middle, _, _, isSlot, _, _, _, released, rfl⟩ :=
    remove_eq_ok returned
  have table : middle.inode = detach disk.inode _ ino before :=
    (releaseFile_keepsTable _ _).ok released
  have atTarget : (middle.zeroed ino).inode ino = Inode.zero := by
    simp [Disk.zeroed]
  have noBlock :
      ∀ block, ¬ Holds (middle.zeroed ino).inode ino block := by
    rintro block ⟨isFile, _⟩
    rw [atTarget] at isFile
    cases isFile
  have bits :
      ∀ {block},
        candidate.IsData block →
        (middle.bit block = true ↔
          disk.bit block = true ∧ ¬ Holds disk.inode ino block) := by
    intro block isData
    unfold releaseFile at released
    split at released
    case isTrue isFile =>
      obtain ⟨bytes, exactly, cleared⟩ :=
        consistent.release geometry ⟨isSlot, isFile⟩
          (disk.detached (disk.inode ino).parent ino before)
      rw [exactly] at released
      cases released
      rw [cleared block isData]
      simp only [Holds, isFile, true_and]
      rfl
    case isFalse notFile =>
      cases released
      simp only [Holds, notFile, false_and, not_false_eq_true, and_true]
      rfl
  refine consistent.reassign isSlot {
    others := ?_
    sizes := ?_
    inside := fun holds => (noBlock _ holds).elim
    available := fun holds => (noBlock _ holds).elim
    bits := ?_
  }
  · intro slot other
    have kept : (middle.zeroed ino).inode slot = middle.inode slot := by
      simp [Disk.zeroed, other]
    rw [kept, table]
    exact detach_sameContents slot
  · intro isFile
    rw [atTarget] at isFile
    cases isFile
  · intro block isData
    simp only [noBlock, or_false]
    exact bits isData

/-- Writing a file replaces its extent by a free run. -/
theorem rewriteFileKeeps
    (geometry : Geometry candidate)
    {ino : Nat}
    {data : List UInt8}
    (fits : blocksFor data.length < 2 ^ 32)
    (returned : rewriteFile candidate ino data disk = .ok () final) :
    Consistent candidate final := by
  obtain ⟨isSlot, isFile, _, middle, released, placed⟩ :=
    rewriteFile_eq_ok returned
  obtain ⟨bytes, exactly, cleared⟩ :=
    consistent.release geometry ⟨isSlot, isFile⟩ disk
  rw [exactly] at released
  cases released
  have covered := geometry.covered
  -- The cast to `u32` loses nothing.
  have needed : neededBlocks data = blocksFor data.length :=
    Nat.mod_eq_of_lt fits
  have otherSlots :
      ∀ {start count slot},
        slot ≠ ino →
        SameContents
          (Function.update disk.inode ino
            ((disk.inode ino).rewritten start count data.length) slot)
          (disk.inode slot) := by
    intro start count slot other
    rw [Function.update_of_ne other]
    exact ⟨rfl, rfl, rfl, rfl⟩
  rcases Nat.eq_zero_or_pos (neededBlocks data) with nothing | positive
  · rw [placeData_zero ino _ nothing] at placed
    cases placed
    have noBlock :
        ∀ block,
          ¬ Holds
            (Function.update disk.inode ino
              ((disk.inode ino).rewritten 0 0 data.length))
            ino block := by
      rintro block ⟨_, hasBlock⟩
      rw [Function.update_self] at hasBlock
      exact Inode.not_hasBlock rfl block hasBlock
    refine consistent.reassign isSlot {
      others := fun slot other => otherSlots other
      sizes := ?_
      inside := fun holds => (noBlock _ holds).elim
      available := fun holds => (noBlock _ holds).elim
      bits := ?_
    }
    · intro _
      simp only [Function.update_self, Inode.rewritten]
      rw [← needed, nothing]
    · intro block isData
      simp only [noBlock, or_false]
      simp only [Holds, isFile, true_and]
      exact cleared block isData
  · rcases @placeData_spec _ { disk with bytes := bytes } geometry ino
        (disk.inode ino) data positive with
      ⟨start, result, returns, allocated, table⟩ | ⟨fails, _⟩
    case inr =>
      rw [fails] at placed
      cases placed
    case inl =>
      rw [returns] at placed
      cases placed
      have atTarget :
          final.inode ino =
            (disk.inode ino).rewritten start (neededBlocks data)
              data.length := by
        rw [table, Function.update_self]
      have holdsIff :
          ∀ block,
            Holds final.inode ino block ↔
              InRun start (neededBlocks data) block := by
        intro block
        unfold Holds
        rw [atTarget]
        exact and_iff_right isFile
      have isData :
          ∀ {block},
            InRun start (neededBlocks data) block →
            candidate.IsData block := by
        rintro block ⟨lower, upper⟩
        exact ⟨le_trans allocated.lower lower,
          lt_of_lt_of_le upper allocated.upper⟩
      refine consistent.reassign isSlot {
        others := ?_
        sizes := ?_
        inside := fun holds => isData ((holdsIff _).mp holds)
        available := ?_
        bits := ?_
      }
      · intro slot other
        rw [table]
        exact otherSlots other
      · intro _
        rw [atTarget]
        exact needed
      · intro block holds wasSet
        have inRun := (holdsIff block).mp holds
        have isFree := allocated.free block inRun.1 inRun.2
        by_contra notHeld
        have stillSet :=
          (cleared block (isData inRun)).mpr
            ⟨wasSet, fun hasBlock => notHeld ⟨isFile, hasBlock⟩⟩
        rw [isFree] at stillSet
        cases stillSet
      · intro block blockIsData
        have upper := blockIsData.2
        rw [allocated.bits block (by omega), holdsIff block,
          Bool.or_eq_true, decide_eq_true_iff,
          cleared block blockIsData]
        simp only [Holds, isFile, true_and]

end

end Consistent

/-- The number of bytes a call writes. -/
def Call.dataLength : Call → Nat
  | .writeFile _ _ data _ _ => data.length
  | _ => 0

theorem Consistent.callKeeps
    (consistent : Consistent candidate disk)
    (geometry : Geometry candidate)
    (call : Call)
    (fits : blocksFor call.dataLength < 2 ^ 32)
    (returned : call.run candidate disk = .ok () final) :
    Consistent candidate final := by
  cases call with
  | makeDir path cwd uid gid =>
      obtain ⟨_, middle, created, later⟩ := Prog.bind_eq_ok.mp returned
      cases later
      exact consistent.createEntryKeeps created
  | touch path cwd uid gid =>
      obtain ⟨_, middle, found, later⟩ := Prog.bind_eq_ok.mp returned
      cases later
      exact consistent.resolveOrCreateKeeps found
  | writeFile path cwd data uid gid =>
      obtain ⟨_, middle, found, written⟩ := Prog.bind_eq_ok.mp returned
      exact (consistent.resolveOrCreateKeeps found).rewriteFileKeeps geometry
        fits written
  | remove path cwd uid gid =>
      exact consistent.removeKeeps geometry returned

theorem consistent_formatted
    (geometry : Geometry candidate) :
    ∃ disk,
      format candidate Disk.blank = .ok candidate disk ∧
        Consistent candidate disk := by
  obtain ⟨disk, formatted, bits⟩ := format_spec geometry
  have table := format_table formatted
  have noFile : ∀ slot, ¬ IsFile disk.inode slot := by
    rintro slot ⟨_, isFile⟩
    rw [table] at isFile
    by_cases isRoot : slot = rootInode
    · rw [isRoot, Function.update_self] at isFile
      cases isFile
    · rw [Function.update_of_ne isRoot] at isFile
      cases isFile
  refine ⟨disk, formatted, {
    sizes := fun isFile => (noFile _ isFile).elim
    inside := fun isFile => (noFile _ isFile).elim
    disjoint := fun isFile => (noFile _ isFile).elim
    exact := ?_
  }⟩
  intro block isData
  have covered := geometry.covered
  rw [bits block (by have upper := isData.2; omega)]
  simp only [decide_eq_true_eq, noFile, false_and, exists_false,
    iff_false, not_lt]
  exact isData.1

end VibuxOS.Storage.Vfs
