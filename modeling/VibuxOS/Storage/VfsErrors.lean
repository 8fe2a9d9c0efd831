import VibuxOS.Storage.VfsAlloc
import VibuxOS.Storage.VfsTreeRuns

namespace VibuxOS.Storage.Vfs

open VibuxOS.Lib

/-!
# Failing calls

`make_dir`, `touch` and `remove` check everything before they write.
`write_file` does not: it creates the entry before it looks at the size of the
data, and it gives the old blocks back before it knows that there is room for
the new ones.
-/

variable {candidate : FsMeta} {disk final : Disk}

/-- The states between calls: a tree whose files agree with the bitmap. -/
structure Sound (candidate : FsMeta) (disk : Disk) : Prop where
  tree : TreeInvariant disk.inode
  allocation : Consistent candidate disk

/-- The bitmap as it reads when the blocks of a record are given back. -/
def Disk.bitWithout (disk : Disk) (inode : Inode) (block : Nat) : Bool :=
  disk.bit block &&
    !decide (InRun inode.startBlock inode.blockCount block)

/-- Data that needs more blocks than a file may have, or than there are in a run. -/
def Refused
    (candidate : FsMeta)
    (used : Nat → Bool)
    (data : List UInt8) : Prop :=
  maxFileBlocks < neededBlocks data ∨
    (0 < neededBlocks data ∧ NoRoom candidate used (neededBlocks data))

/-- The path names nothing, and `create_entry` accepts it. -/
def Creates (disk : Disk) (path : List UInt8) (cwd : Nat) : Prop :=
  resolveWith path cwd disk = .err .notFound disk ∧
    ∃ directory fresh, Creation disk path cwd directory fresh

/-- The path names a regular file that has blocks. -/
def Overwrites
    (disk : Disk)
    (path : List UInt8)
    (cwd ino : Nat) : Prop :=
  resolveWith path cwd disk = .ok ino disk ∧
    IsFile disk.inode ino ∧
    (disk.inode ino).blockCount ≠ 0

/--
A write that fails behind its first change: it has created an entry for data
that is refused, or given back the blocks of a file for data that fits in a
file but in no free run.
-/
def Call.LeavesTrace
    (candidate : FsMeta)
    (disk : Disk) :
    Call → Prop
  | .writeFile path cwd data _ _ =>
      (Creates disk path cwd ∧ Refused candidate disk.bit data) ∨
        ∃ ino,
          Overwrites disk path cwd ino ∧
            0 < neededBlocks data ∧
            neededBlocks data ≤ maxFileBlocks ∧
            NoRoom candidate (disk.bitWithout (disk.inode ino))
              (neededBlocks data)
  | _ => False

/-! ## Writes that fail -/

theorem noRoom_congr
    {used other : Nat → Bool}
    {count : Nat}
    (same :
      ∀ block,
        candidate.IsData block →
        (used block = true ↔ other block = true)) :
    NoRoom candidate used count ↔ NoRoom candidate other count := by
  unfold NoRoom
  refine forall_congr' (fun start => forall_congr' (fun lower =>
    forall_congr' (fun upper => not_congr ?_)))
  unfold FreeRun
  refine forall_congr' (fun block => forall_congr' (fun first =>
    forall_congr' (fun last => ?_)))
  have isData : candidate.IsData block := by
    unfold FsMeta.IsData
    omega
  rw [← Bool.not_eq_true, ← Bool.not_eq_true, same block isData]

theorem placeData_fails_iff
    (geometry : Geometry candidate)
    (ino : Nat)
    (inode : Inode)
    (data : List UInt8) :
    placeData candidate ino inode data disk = .err .noSpace disk ↔
      0 < neededBlocks data ∧
        NoRoom candidate disk.bit (neededBlocks data) := by
  rcases Nat.eq_zero_or_pos (neededBlocks data) with nothing | positive
  · rw [placeData_zero ino inode nothing, nothing]
    simp
  · rcases @placeData_spec _ disk geometry ino inode data positive with
        ⟨start, after, returns, allocated, _⟩ | ⟨fails, noRoom⟩
    · rw [returns]
      simp only [reduceCtorEq, positive, true_and, false_iff]
      intro noRoom
      exact noRoom start allocated.lower allocated.upper allocated.free
    · exact iff_of_true fails ⟨positive, noRoom⟩

theorem Consistent.rewriteFile_fails_iff
    (consistent : Consistent candidate disk)
    (geometry : Geometry candidate)
    {ino : Nat}
    (isFile : IsFile disk.inode ino)
    (data : List UInt8) :
    ∃ released,
      releaseBlocks candidate (disk.inode ino) disk = .ok () released ∧
        (∀ block,
          candidate.IsData block →
          (released.bit block = true ↔
            disk.bitWithout (disk.inode ino) block = true)) ∧
        ∀ error final,
          rewriteFile candidate ino data disk = .err error final ↔
            (error = .tooLarge ∧
              maxFileBlocks < neededBlocks data ∧
              final = disk) ∨
            (error = .noSpace ∧
              neededBlocks data ≤ maxFileBlocks ∧
              0 < neededBlocks data ∧
              NoRoom candidate (disk.bitWithout (disk.inode ino))
                (neededBlocks data) ∧
              final = released) := by
  obtain ⟨bytes, released, cleared⟩ :=
    consistent.release geometry isFile disk
  have bits :
      ∀ block,
        candidate.IsData block →
        (Disk.bit { disk with bytes := bytes } block = true ↔
          disk.bitWithout (disk.inode ino) block = true) := by
    intro block isData
    rw [cleared block isData]
    simp [Disk.bitWithout, Inode.HasBlock]
  refine ⟨_, released, bits, ?_⟩
  intro error final
  constructor
  · intro failed
    rcases rewriteFile_eq_err isFile.1 failed with
        ⟨_, notFile, _⟩ | ⟨rfl, _, tooLarge, rfl⟩ |
        ⟨rfl, _, fits, releases, placing⟩
    · exact (notFile isFile.2).elim
    · exact Or.inl ⟨rfl, tooLarge, rfl⟩
    · rw [released] at releases
      cases releases
      obtain ⟨positive, noRoom⟩ :=
        (placeData_fails_iff geometry ino _ data).mp placing
      exact Or.inr
        ⟨rfl, fits, positive, (noRoom_congr bits).mp noRoom, rfl⟩
  · have read := @readInode_of_isSlot disk ino isFile.1
    unfold rewriteFile
    rw [Prog.bind_of_ok read, if_neg (not_not.mpr isFile.2)]
    rintro (⟨rfl, tooLarge, rfl⟩ | ⟨rfl, fits, positive, noRoom, rfl⟩)
    · rw [if_pos tooLarge]
      rfl
    · rw [if_neg (not_lt.mpr fits), Prog.bind_of_ok released]
      exact (placeData_fails_iff geometry ino _ data).mpr
        ⟨positive, (noRoom_congr bits).mpr noRoom⟩

section

variable
  {path : List UInt8}
  {cwd kind mode uid gid directory fresh : Nat}
  (checked : Creation disk path cwd directory fresh)

include checked

theorem Creation.created_ne
    (kindUsed : kind ≠ 0) :
    disk.created path kind mode uid gid directory fresh ≠ disk := by
  intro same
  have atFresh :=
    @Creation.created_fresh disk path cwd kind mode uid gid directory
      fresh checked
  rw [same] at atFresh
  have free := checked.freshFree
  rw [atFresh] at free
  exact kindUsed free

theorem Creation.bitWithout_created :
    (disk.created path kind mode uid gid directory fresh).bitWithout
        ((disk.created path kind mode uid gid directory fresh).inode
          fresh) =
      disk.bit := by
  funext block
  rw [checked.created_fresh]
  have noBlock : ¬ InRun 0 0 block := not_inRun_zero 0 block
  simp only [Disk.bitWithout, newEntry, noBlock, decide_false,
    Bool.not_false, Bool.and_true]
  rfl

end

section

variable
  (geometry : Geometry candidate)
  (consistent : Consistent candidate disk)

include geometry consistent

theorem writeFile_creates_and_fails
    {path : List UInt8}
    {cwd uid gid : Nat}
    {data : List UInt8}
    (creates : Creates disk path cwd)
    (refused : Refused candidate disk.bit data) :
    ∃ error final,
      writeFile candidate path cwd data uid gid disk =
          .err error final ∧
        final ≠ disk := by
  obtain ⟨missing, directory, fresh, checked⟩ := creates
  have created :=
    (@createEntry_eq_ok disk _ path cwd 1 0o644 uid gid fresh).mpr
      ⟨directory, checked, rfl⟩
  have found :
      resolveOrCreate path cwd uid gid disk =
        .ok fresh
          (disk.created path 1 0o644 uid gid directory fresh) := by
    unfold resolveOrCreate
    rw [missing]
    exact created
  have isFile :
      IsFile
        (disk.created path 1 0o644 uid gid directory fresh).inode
        fresh :=
    ⟨checked.freshSlot, by rw [checked.created_fresh]; rfl⟩
  have visible :=
    @Creation.created_ne disk path cwd 1 0o644 uid gid directory fresh
      checked (by decide)
  obtain ⟨released, release, _, fails⟩ :=
    (consistent.createEntryKeeps created).rewriteFile_fails_iff geometry isFile
      data
  have nothingReleased :
      released = disk.created path 1 0o644 uid gid directory fresh := by
    unfold releaseBlocks at release
    rw [checked.created_fresh] at release
    cases release
    rfl
  rw [checked.bitWithout_created, nothingReleased] at fails
  rcases Nat.lt_or_ge maxFileBlocks (neededBlocks data) with
      tooLarge | fits
  · exact ⟨.tooLarge, _, (Prog.bind_of_ok found).trans
      ((fails _ _).mpr (Or.inl ⟨rfl, tooLarge, rfl⟩)), visible⟩
  · obtain ⟨positive, noRoom⟩ :=
      refused.resolve_left (not_lt.mpr fits)
    exact ⟨.noSpace, _, (Prog.bind_of_ok found).trans
      ((fails _ _).mpr
        (Or.inr ⟨rfl, fits, positive, noRoom, rfl⟩)), visible⟩

theorem writeFile_frees_and_fails
    {path : List UInt8}
    {cwd uid gid ino : Nat}
    {data : List UInt8}
    (overwrites : Overwrites disk path cwd ino)
    (positive : 0 < neededBlocks data)
    (fits : neededBlocks data ≤ maxFileBlocks)
    (noRoom :
      NoRoom candidate (disk.bitWithout (disk.inode ino))
        (neededBlocks data)) :
    ∃ error final,
      writeFile candidate path cwd data uid gid disk =
          .err error final ∧
        final ≠ disk := by
  obtain ⟨resolved, isFile, hasBlocks⟩ := overwrites
  have found :
      resolveOrCreate path cwd uid gid disk = .ok ino disk := by
    unfold resolveOrCreate
    rw [resolved]
  obtain ⟨released, _, bits, fails⟩ :=
    consistent.rewriteFile_fails_iff geometry isFile data
  refine ⟨.noSpace, released, (Prog.bind_of_ok found).trans
    ((fails _ _).mpr
      (Or.inr ⟨rfl, fits, positive, noRoom, rfl⟩)), ?_⟩
  -- The first block of the file was marked, and it no longer is.
  rintro rfl
  have first :
      (released.inode ino).HasBlock (released.inode ino).startBlock := by
    unfold Inode.HasBlock InRun
    omega
  have isData := consistent.inside isFile first
  have marked : released.bit (released.inode ino).startBlock = true :=
    (consistent.exact isData).mpr ⟨ino, isFile, first⟩
  have without := (bits _ isData).mp marked
  have inRun :
      InRun (released.inode ino).startBlock
        (released.inode ino).blockCount
        (released.inode ino).startBlock :=
    first
  simp [Disk.bitWithout, inRun] at without

theorem writeFile_eq_err
    {path : List UInt8}
    {cwd uid gid : Nat}
    {data : List UInt8}
    {error : FsError}
    (failed :
      writeFile candidate path cwd data uid gid disk =
        .err error final) :
    final = disk ∨
      Call.LeavesTrace candidate disk
        (.writeFile path cwd data uid gid) := by
  rcases Prog.bind_eq_err.mp failed with
      notFound | ⟨ino, middle, found, rewriting⟩
  · exact Or.inl (resolveOrCreate_eq_err notFound)
  rcases resolveOrCreate_eq_ok found with
      ⟨resolved, rfl⟩ | ⟨missing, created⟩
  · by_cases isSlot : IsSlot ino
    case neg =>
      rcases (readInode_readOnly _).of_bind_err rewriting with
          ⟨_, same⟩ | ⟨_, read, _⟩
      · exact Or.inl same
      · exact (isSlot (readInode_eq_ok.mp read).1).elim
    case pos =>
      by_cases isFile : (middle.inode ino).kind = 1
      case neg =>
        rcases rewriteFile_eq_err isSlot rewriting with
            ⟨_, _, same⟩ | ⟨_, isFile', _⟩ | ⟨_, isFile', _⟩
        · exact Or.inl same
        · exact (isFile isFile').elim
        · exact (isFile isFile').elim
      case pos =>
        obtain ⟨released, release, _, fails⟩ :=
          consistent.rewriteFile_fails_iff geometry ⟨isSlot, isFile⟩ data
        rcases (fails _ _).mp rewriting with
            ⟨_, _, same⟩ | ⟨_, fits, positive, noRoom, rfl⟩
        · exact Or.inl same
        · by_cases hasBlocks : (middle.inode ino).blockCount = 0
          · left
            unfold releaseBlocks at release
            rw [if_neg (not_not.mpr hasBlocks)] at release
            cases release
            rfl
          · exact Or.inr (Or.inr
              ⟨ino, ⟨resolved, ⟨isSlot, isFile⟩, hasBlocks⟩,
                positive, fits, noRoom⟩)
  · obtain ⟨directory, checked, rfl⟩ := createEntry_eq_ok.mp created
    have isFile :
        IsFile
          (disk.created path 1 0o644 uid gid directory ino).inode
          ino :=
      ⟨checked.freshSlot, by rw [checked.created_fresh]; rfl⟩
    obtain ⟨released, _, _, fails⟩ :=
      (consistent.createEntryKeeps created).rewriteFile_fails_iff geometry
        isFile data
    rw [checked.bitWithout_created] at fails
    refine Or.inr (Or.inl ⟨⟨missing, directory, ino, checked⟩, ?_⟩)
    rcases (fails _ _).mp rewriting with
        ⟨_, tooLarge, _⟩ | ⟨_, _, positive, noRoom, _⟩
    · exact Or.inl tooLarge
    · exact Or.inr ⟨positive, noRoom⟩

end

/--
In a sound state a failing call leaves the disk as it was, except for exactly
those writes that fail behind their first change.
-/
theorem failure_atomic_iff
    (geometry : Geometry candidate)
    (sound : Sound candidate disk)
    (call : Call) :
    (∀ error final,
        call.run candidate disk = .err error final →
        final = disk) ↔
      ¬ call.LeavesTrace candidate disk := by
  cases call with
  | makeDir path cwd uid gid =>
      refine iff_of_true ?_ id
      intro error final failed
      rcases Prog.bind_eq_err.mp failed with
          creating | ⟨_, _, _, returning⟩
      · exact createEntry_eq_err creating
      · cases returning
  | touch path cwd uid gid =>
      refine iff_of_true ?_ id
      intro error final failed
      rcases Prog.bind_eq_err.mp failed with
          finding | ⟨_, _, _, returning⟩
      · exact resolveOrCreate_eq_err finding
      · cases returning
  | remove path cwd uid gid =>
      refine iff_of_true ?_ id
      intro error final failed
      exact remove_eq_err failed
  | writeFile path cwd data uid gid =>
      constructor
      · rintro atomic (⟨creates, refused⟩ |
          ⟨ino, overwrites, positive, fits, noRoom⟩)
        · obtain ⟨error, final, failed, changed⟩ :=
            @writeFile_creates_and_fails _ _ geometry sound.allocation
              path cwd uid gid data creates refused
          exact changed (atomic error final failed)
        · obtain ⟨error, final, failed, changed⟩ :=
            @writeFile_frees_and_fails _ _ geometry sound.allocation
              path cwd uid gid ino data overwrites positive fits noRoom
          exact changed (atomic error final failed)
      · intro noTrace error final failed
        exact
          (writeFile_eq_err geometry sound.allocation failed).resolve_right
            noTrace

/-- Data that is one byte longer than a file may be. -/
def oversized : List UInt8 :=
  List.replicate (maxFileBlocks * blockSize + 1) 0

theorem oversized_tooLarge :
    maxFileBlocks < neededBlocks oversized := by
  have needed :
      ∀ count,
        neededBlocks (List.replicate count 0) =
          (count + blockSize - 1) / blockSize % 2 ^ 32 := by
    intro count
    unfold neededBlocks
    rw [List.length_replicate]
  rw [oversized, needed]
  simp only [maxFileBlocks, blockSize]
  omega

theorem sound_formatted
    (geometry : Geometry candidate) :
    ∃ disk,
      format candidate Disk.blank = .ok candidate disk ∧
        Sound candidate disk ∧
        Creates disk sampleName rootInode := by
  obtain ⟨disk, formatted, consistent⟩ :=
    consistent_formatted geometry
  have table := format_table formatted
  exact ⟨disk, formatted,
    ⟨treeInvariant_formatted formatted, consistent⟩,
    missing_formatted table, rootInode, 2, creation_formatted table⟩

/-- On a fresh disk, directories are made or nothing is changed. -/
theorem failure_atomic_makeDir :
    ∃ disk,
      Sound smallDisk disk ∧
        ∀ error final,
          (Call.makeDir sampleName rootInode 0 0).run smallDisk disk =
            .err error final →
          final = disk := by
  obtain ⟨disk, _, sound, _⟩ := sound_formatted geometry_smallDisk
  exact ⟨disk, sound,
    (failure_atomic_iff geometry_smallDisk sound
      (.makeDir sampleName rootInode 0 0)).mpr id⟩

/-- On a fresh disk, `write_file f` of too much data fails and leaves an entry. -/
theorem oversized_write_leaves_entry :
    ∃ disk error final,
      format smallDisk Disk.blank = .ok smallDisk disk ∧
        Sound smallDisk disk ∧
        (Call.writeFile sampleName rootInode oversized 0 0).run smallDisk
            disk =
          .err error final ∧
        final ≠ disk := by
  obtain ⟨disk, formatted, sound, creates⟩ :=
    sound_formatted geometry_smallDisk
  obtain ⟨error, final, failed, changed⟩ :=
    @writeFile_creates_and_fails _ _ geometry_smallDisk
      sound.allocation sampleName rootInode 0 0 oversized creates
      (Or.inl oversized_tooLarge)
  exact ⟨disk, error, final, formatted, sound, failed, changed⟩

end VibuxOS.Storage.Vfs
