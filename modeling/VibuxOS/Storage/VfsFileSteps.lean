import VibuxOS.Storage.VfsLookups

namespace VibuxOS.Storage.Vfs

open VibuxOS.Lib

/-!
# Steps on one file

Creating, rewriting and removing a file is the business of that file: any other one
keeps its record, up to the link to its next sibling, and its bytes.
-/

variable {candidate : FsMeta} {disk middle final : Disk}

/-- A file has its old record, up to the chain it is on, and its old bytes. -/
structure Unchanged (disk final : Disk) (slot : Nat) : Prop where
  record :
    ∃ next,
      final.inode slot =
        { disk.inode slot with nextSibling := next }
  contents : final.contents slot = disk.contents slot

namespace Unchanged

theorem refl
    (disk : Disk)
    (slot : Nat) :
    Unchanged disk disk slot where
  record := ⟨(disk.inode slot).nextSibling, rfl⟩
  contents := rfl

theorem trans
    {slot : Nat}
    (first : Unchanged disk middle slot)
    (second : Unchanged middle final slot) :
    Unchanged disk final slot where
  record := by
    obtain ⟨_, before⟩ := first.record
    obtain ⟨next, after⟩ := second.record
    exact ⟨next, by rw [after, before]⟩
  contents := second.contents.trans first.contents

theorem isFile
    {slot : Nat}
    (unchanged : Unchanged disk final slot)
    (isFile : IsFile disk.inode slot) :
    IsFile final.inode slot := by
  obtain ⟨_, record⟩ := unchanged.record
  exact ⟨isFile.1, by rw [record]; exact isFile.2⟩

theorem of_bytes
    {slot : Nat}
    (record :
      ∃ next,
        final.inode slot =
          { disk.inode slot with nextSibling := next })
    (bytes :
      ∀ index,
        index < (disk.inode slot).size →
        final.bytes (blockBytes (disk.inode slot).startBlock + index) =
          disk.bytes (blockBytes (disk.inode slot).startBlock + index)) :
    Unchanged disk final slot where
  record := record
  contents := by
    obtain ⟨_, same⟩ := record
    unfold Disk.contents
    rw [same]
    exact window_eq_iff.mpr bytes

end Unchanged

theorem readsAs_iff
    {path data : List UInt8}
    {cwd : Nat} :
    ReadsAs disk path cwd data ↔
      ∃ ino,
        resolveWith path cwd disk = .ok ino disk ∧
          IsFile disk.inode ino ∧
          disk.contents ino = data := by
  constructor
  · intro reads
    obtain ⟨filled, read, shown⟩ :=
      reads.bytes data.length (fun _ => 0) (Nat.le_refl _)
    have returned := read
    unfold readFileBytes at returned
    obtain ⟨ino, resolved, later⟩ :=
      (resolveWith_readOnly _ _).of_bind_ok returned
    obtain ⟨inode, readInode, later⟩ :=
      (readInode_readOnly _).of_bind_ok later
    obtain ⟨isSlot, rfl, _⟩ := readInode_eq_ok.mp readInode
    split at later
    · cases later
    rename_i kind
    have isFile : IsFile disk.inode ino := ⟨isSlot, not_not.mp kind⟩
    refine ⟨ino, resolved, isFile, ?_⟩
    rw [readFileBytes_eq _ resolved isFile] at read
    split at read
    · cases read
    · injection read with both
      injection both with size bytes
      rw [← shown, ← size, ← bytes, window_blit_inside, Disk.contents]
      apply window_eq_iff.mpr
      intro index _
      rw [Nat.zero_add]
  · rintro ⟨ino, resolved, isFile, rfl⟩
    exact readsAs_contents resolved isFile

/-! ## Removing a file -/

/-- What removing a file has done. -/
structure Removed (disk final : Disk) (target : Nat) : Prop where
  lookups : SameLookups final (disk.without target)
  gone : ¬ IsFile final.inode target
  others :
    ∀ slot,
      IsFile disk.inode slot →
      slot ≠ target →
      Unchanged disk final slot
  files :
    ∀ slot, IsFile final.inode slot → IsFile disk.inode slot

theorem detach_record
    {slots : Slots}
    {directory target previous slot : Nat}
    (notDirectory : slot ≠ directory) :
    ∃ next,
      detach slots directory target previous slot =
        { slots slot with nextSibling := next } := by
  unfold detach
  split
  · exact
      ⟨(slots slot).nextSibling, by rw [Function.update_of_ne notDirectory]⟩
  · rw [Function.update_of_ne notDirectory]
    by_cases isPrevious : slot = previous
    · subst isPrevious
      rw [Function.update_self]
      exact ⟨_, rfl⟩
    · rw [Function.update_of_ne isPrevious]
      exact ⟨_, rfl⟩

theorem Sound.remove_file
    (geometry : Geometry candidate)
    (sound : Sound candidate disk)
    {path : List UInt8}
    {cwd target : Nat}
    (resolved : resolveWith path cwd disk = .ok target disk)
    (isFile : IsFile disk.inode target) :
    ∃ final,
      remove candidate path cwd disk = .ok () final ∧
        Removed disk final target := by
  have tree := sound.tree
  have used : Used disk.inode target :=
    ⟨isFile.1, by rw [isFile.2]; decide⟩
  have notRoot : target ≠ rootInode := by
    rintro rfl
    have kind := isFile.2
    rw [tree.rootDirectory] at kind
    cases kind
  obtain ⟨parentSlot, parentKind⟩ := tree.parentDirectory used notRoot
  obtain ⟨front, back, chain, unlinked⟩ :=
    tree.unlinkChild_apply used notRoot
  obtain ⟨bytes, released, _⟩ :=
    sound.allocation.release geometry isFile
      (disk.detached (disk.inode target).parent target (front.getLastD 0))
  have keepsBytes :=
    (@releaseBlocks_keepsData candidate (disk.inode target)).ok released
  refine
    ⟨Disk.zeroed
      { disk.detached (disk.inode target).parent target
          (front.getLastD 0) with
        bytes := bytes } target, ?_, ?_⟩
  · unfold remove
    rw [Prog.bind_of_ok resolved, if_neg notRoot,
      Prog.bind_of_ok (readInode_of_isSlot isFile.1),
      Prog.bind_of_ok (readInode_of_isSlot parentSlot), if_neg]
    · rw [Prog.bind_of_ok unlinked, releaseFile, if_pos isFile.2,
        Prog.bind_of_ok released]
      rfl
    · rw [isFile.2]
      rintro ⟨isDirectory, _⟩
      cases isDirectory
  · refine ⟨?_, ?_, ?_, ?_⟩
    · exact sameLookups_removed tree isFile notRoot chain
        (precedes_getLastD front) rfl
    · rintro ⟨_, kind⟩
      simp [Disk.zeroed, Inode.zero] at kind
    · intro slot otherFile other
      have notParent : slot ≠ (disk.inode target).parent := by
        rintro rfl
        have kind := otherFile.2
        rw [parentKind] at kind
        cases kind
      refine .of_bytes ?_ fun index inside => ?_
      · simp only [Disk.zeroed, Function.update_of_ne other]
        exact detach_record notParent
      · exact keepsBytes _
          (sound.allocation.byte_inData otherFile inside)
    · rintro slot ⟨isSlot, kind⟩
      refine ⟨isSlot, ?_⟩
      by_cases isTarget : slot = target
      · rw [isTarget]
        exact isFile.2
      · simp only [Disk.zeroed, Function.update_of_ne isTarget] at kind
        rw [← kind]
        exact (detach_fields slot).1.symm

/-! ## Writing a file -/

/-- There is a run of free blocks for data, when the old blocks are given back. -/
def HasRoom
    (candidate : FsMeta)
    (disk : Disk)
    (ino : Nat)
    (data : List UInt8) : Prop :=
  neededBlocks data = 0 ∨
    ¬ NoRoom candidate (disk.bitWithout (disk.inode ino))
      (neededBlocks data)

/-- What a write without room has left: the same table and the same data. -/
structure OutOfRoom (candidate : FsMeta) (disk final : Disk) : Prop where
  table : final.inode = disk.inode
  data :
    ∀ address,
      blockBytes candidate.dataStart ≤ address →
      final.bytes address = disk.bytes address

theorem Sound.rewrite_file
    (geometry : Geometry candidate)
    (sound : Sound candidate disk)
    {ino : Nat}
    (isFile : IsFile disk.inode ino)
    {data : List UInt8}
    (fits : data.length ≤ maxFileBlocks * blockSize) :
    (HasRoom candidate disk ino data ∧
        ∃ final,
          rewriteFile candidate ino data disk = .ok () final ∧
            Rewritten disk final ino data ∧
            Sound candidate final) ∨
      (¬ HasRoom candidate disk ino data ∧
        ∃ final,
          rewriteFile candidate ino data disk = .err .noSpace final ∧
            OutOfRoom candidate disk final) := by
  have size : blockSize = 4096 := by
    simp only [blockSize]
  have most : maxFileBlocks = 1024 := rfl
  have small : blocksFor data.length < 2 ^ 32 := by
    rw [most, size] at fits
    unfold blocksFor
    rw [size]
    omega
  have needed : neededBlocks data = blocksFor data.length :=
    Nat.mod_eq_of_lt small
  have few : neededBlocks data ≤ maxFileBlocks := by
    rw [most, size] at fits
    rw [needed, blocksFor, most, size]
    omega
  obtain ⟨released, release, bits, fails⟩ :=
    sound.allocation.rewriteFile_fails_iff geometry isFile data
  have placed :
      rewriteFile candidate ino data disk =
        placeData candidate ino (disk.inode ino) data released := by
    unfold rewriteFile
    rw [Prog.bind_of_ok (readInode_of_isSlot isFile.1),
      if_neg (not_not.mpr isFile.2), if_neg (Nat.not_lt.mpr few),
      Prog.bind_of_ok release]
  by_cases room : HasRoom candidate disk ino data
  · refine .inl ⟨room, ?_⟩
    have returned :
        ∃ final, rewriteFile candidate ino data disk = .ok () final := by
      rw [placed]
      rcases Nat.eq_zero_or_pos (neededBlocks data) with nothing | positive
      · exact ⟨_, placeData_zero ino _ nothing⟩
      · rcases @placeData_spec _ released geometry ino (disk.inode ino) data
            positive with ⟨_, final, returns, _⟩ | ⟨_, noRoom⟩
        · exact ⟨final, returns⟩
        · rw [noRoom_congr bits] at noRoom
          rcases room with nothing | room
          · omega
          · exact (room noRoom).elim
    obtain ⟨final, returned⟩ := returned
    exact
      ⟨final, returned, sound.allocation.rewritten geometry fits returned,
        (TreeInvariant.rewriteFile_keeps ino data disk sound.tree).1 _ _
          returned,
        sound.allocation.rewriteFileKeeps geometry small returned⟩
  · refine .inr ⟨room, released, ?_, ?_, ?_⟩
    · unfold HasRoom at room
      rw [not_or, not_not] at room
      exact (fails _ _).mpr
        (.inr ⟨rfl, few, Nat.pos_of_ne_zero room.1, room.2, rfl⟩)
    · exact (releaseBlocks_keepsTable _ _).ok release
    · exact (releaseBlocks_keepsData (disk.inode ino)).ok release

theorem Rewritten.unchanged
    {ino slot : Nat}
    {data : List UInt8}
    (rewritten : Rewritten disk final ino data)
    (isFile : IsFile disk.inode slot)
    (other : slot ≠ ino) :
    Unchanged disk final slot := by
  obtain ⟨start, count, table⟩ := rewritten.table
  refine .of_bytes ⟨(disk.inode slot).nextSibling, ?_⟩
    (rewritten.others slot isFile other)
  rw [table, Function.update_of_ne other]

theorem OutOfRoom.unchanged
    {slot : Nat}
    (consistent : Consistent candidate disk)
    (outOfRoom : OutOfRoom candidate disk final)
    (isFile : IsFile disk.inode slot) :
    Unchanged disk final slot := by
  refine .of_bytes ⟨(disk.inode slot).nextSibling, ?_⟩
    fun index inside => outOfRoom.data _ (consistent.byte_inData isFile inside)
  rw [outOfRoom.table]

theorem Creation.unchanged
    {path : List UInt8}
    {cwd uid gid directory fresh slot : Nat}
    (checked : Creation disk path cwd directory fresh)
    (isFile : IsFile disk.inode slot) :
    Unchanged disk (Creation.made disk path uid gid directory fresh) slot := by
  have notFresh : slot ≠ fresh := by
    rintro rfl
    have kind := isFile.2
    rw [checked.freshFree] at kind
    cases kind
  have notDirectory : slot ≠ directory := by
    rintro rfl
    have kind := isFile.2
    rw [checked.directoryKind] at kind
    cases kind
  have same :
      (Creation.made disk path uid gid directory fresh).inode slot =
        disk.inode slot :=
    enter_other notFresh notDirectory
  exact .of_bytes ⟨(disk.inode slot).nextSibling, by rw [same]⟩
    fun _ _ => rfl

end VibuxOS.Storage.Vfs
