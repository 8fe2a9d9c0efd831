import VibuxOS.Commands.CoreUtils
import VibuxOS.Storage.VfsFileSteps

namespace VibuxOS.Commands

open VibuxOS.Lib VibuxOS.Storage.Vfs

/-!
# `mv`

`mv` reads its source, writes its destination and removes its source, and resolves
the path afresh each time.  Nothing keeps the two paths apart: if the destination is
another spelling of the source, or leads through it, the removal takes it away.
-/

variable
  {candidate : FsMeta}
  {disk : Disk}
  {src dst : List UInt8}
  {cwd uid gid : Nat}

variable
  {slot : Nat}
  {output : List Output}
  {final : Disk}

/-! ## The destination -/

/-- The slot that a write finds or creates, and the table that holds it. -/
inductive Destination
    (disk : Disk)
    (dst : List UInt8)
    (cwd uid gid : Nat) : Nat → Disk → Prop where
  | found
      {ino : Nat} :
      resolveWith dst cwd disk = .ok ino disk →
      Destination disk dst cwd uid gid ino disk
  | made
      {directory fresh : Nat} :
      resolveWith dst cwd disk = .err .notFound disk →
      Creation disk dst cwd directory fresh →
      Destination disk dst cwd uid gid fresh
        (Creation.made disk dst uid gid directory fresh)

namespace Destination

variable {ino : Nat} {table : Disk}

theorem resolveOrCreate_iff :
    resolveOrCreate dst cwd uid gid disk = .ok ino table ↔
      Destination disk dst cwd uid gid ino table := by
  constructor
  · intro returned
    rcases resolveOrCreate_eq_ok returned with
        ⟨resolved, rfl⟩ | ⟨missing, created⟩
    · exact .found resolved
    · obtain ⟨directory, checked, rfl⟩ := createEntry_eq_ok.mp created
      exact .made missing checked
  · intro destination
    cases destination with
    | found resolved =>
        unfold resolveOrCreate
        rw [resolved]
    | made missing checked =>
        unfold resolveOrCreate
        rw [missing]
        exact createEntry_eq_ok.mpr ⟨_, checked, rfl⟩

section

variable (destination : Destination disk dst cwd uid gid ino table)

include destination

theorem sound
    (isSound : Sound candidate disk) :
    Sound candidate table := by
  cases destination with
  | found _ =>
      exact isSound
  | made _ checked =>
      exact ⟨isSound.tree.created checked (by decide),
        isSound.allocation.created checked⟩

theorem unchanged
    (isFile : IsFile disk.inode slot) :
    Unchanged disk table slot := by
  cases destination with
  | found _ =>
      exact .refl disk slot
  | made _ checked =>
      exact checked.unchanged isFile

theorem isFile_before
    (isFile : IsFile table.inode slot)
    (other : slot ≠ ino) :
    IsFile disk.inode slot := by
  cases destination with
  | found _ =>
      exact isFile
  | made _ checked =>
      refine ⟨isFile.1, ?_⟩
      rw [← isFile.2]
      exact (Creation.made_fields other).1.symm

theorem source
    (isSound : Sound candidate disk)
    {slot target : Nat}
    (resolved : resolveWith src cwd disk = .ok slot disk)
    (isFile : IsFile disk.inode slot)
    (after : resolveWith src cwd table = .ok target table) :
    target = slot ∨
      target = ino ∧
        ino ≠ slot ∧
        IsFile table.inode ino ∧
        (table.inode ino).size = 0 ∧
        ∀ found,
          resolveWith dst cwd (table.without ino) ≠
            .ok found (table.without ino) := by
  cases destination with
  | found _ =>
      rw [resolved] at after
      cases after
      exact .inl rfl
  | made missing checked =>
      rcases checked.resolve_made isSound.tree isFile resolved after with
          same | isNew
      · exact .inl same
      · refine .inr ⟨isNew, ?_, ⟨checked.freshSlot, ?_⟩, ?_, ?_⟩
        · rintro rfl
          have kind := isFile.2
          rw [checked.freshFree] at kind
          cases kind
        · rw [checked.created_fresh]
          rfl
        · rw [checked.created_fresh]
          rfl
        · intro found isFound
          rw [(checked.sameLookups_made isSound.tree).resolveWith_iff,
            missing] at isFound
          cases isFound

end

end Destination

/-! ## What `mv` promises, and when -/

/-- Nothing is lost by `mv` of a file. -/
structure LosesNothing
    (disk : Disk)
    (src dst : List UInt8)
    (cwd source : Nat)
    (output : List Output)
    (final : Disk) : Prop where
  moved :
    output = [] →
    ReadsAs final dst cwd (disk.contents source)
  kept :
    output ≠ [] →
    ReadsAs final src cwd (disk.contents source)
  others :
    ∀ slot,
      IsFile disk.inode slot →
      slot ≠ source →
      resolveWith dst cwd disk ≠ .ok slot disk →
      Unchanged disk final slot

/--
The source is still found next to the destination, and if the data has room, the
destination is still found where the source is passed over.
-/
def Apart
    (candidate : FsMeta)
    (disk : Disk)
    (src dst : List UInt8)
    (cwd uid gid source : Nat) : Prop :=
  ∀ ino table,
    Destination disk dst cwd uid gid ino table →
    IsFile table.inode ino →
    resolveWith src cwd table = .ok source table ∧
      (HasRoom candidate table ino (disk.contents source) →
        ∃ found,
          resolveWith dst cwd (table.without source) =
              .ok found (table.without source) ∧
            IsFile (table.without source).inode found ∧
            (found = ino ∨
              disk.contents found = disk.contents source))

/-! ## The three ways out -/

section Outcomes

variable
  {bytes : List UInt8}
  {middle final : Disk}
  {error : FsError}

section

variable (read : readBuffer src cwd disk = .ok (.ok bytes) disk)

include read

theorem mv_of_write_err
    (failed :
      writeFile candidate dst cwd bytes uid gid disk = .err error final) :
    mv candidate src dst cwd uid gid disk =
      .ok (failure "mv: destination write failed" error) final := by
  unfold mv
  rw [Prog.bind_of_ok read]
  exact Prog.bind_of_ok (Prog.attempt_of_err failed)

theorem mv_of_remove_err
    (written :
      writeFile candidate dst cwd bytes uid gid disk = .ok () middle)
    (failed : remove candidate src cwd middle = .err error final) :
    mv candidate src dst cwd uid gid disk =
      .ok (failure "mv: source removal failed" error) final := by
  unfold mv
  rw [Prog.bind_of_ok read]
  refine (Prog.bind_of_ok (Prog.attempt_of_ok written)).trans ?_
  exact Prog.bind_of_ok (Prog.attempt_of_err failed)

theorem mv_of_removed
    (written :
      writeFile candidate dst cwd bytes uid gid disk = .ok () middle)
    (removed : remove candidate src cwd middle = .ok () final) :
    mv candidate src dst cwd uid gid disk = .ok [] final := by
  unfold mv
  rw [Prog.bind_of_ok read]
  refine (Prog.bind_of_ok (Prog.attempt_of_ok written)).trans ?_
  exact Prog.bind_of_ok (Prog.attempt_of_ok removed)

end

end Outcomes

section Moves

variable
  {source : Nat}
  (geometry : Geometry candidate)
  (sound : Sound candidate disk)
  (resolved : resolveWith src cwd disk = .ok source disk)
  (isFile : IsFile disk.inode source)

include sound in
theorem writeFile_of_no_file
    {bytes : List UInt8}
    (noFile :
      ∀ ino table,
        Destination disk dst cwd uid gid ino table →
        ¬ IsFile table.inode ino) :
    ∃ error,
      writeFile candidate dst cwd bytes uid gid disk = .err error disk := by
  cases found : resolveOrCreate dst cwd uid gid disk with
  | ok ino table =>
      have destination := Destination.resolveOrCreate_iff.mp found
      have notFile := noFile ino table destination
      have written :
          writeFile candidate dst cwd bytes uid gid disk =
            rewriteFile candidate ino bytes table :=
        Prog.bind_of_ok found
      rw [written]
      cases destination with
      | found _ =>
          unfold rewriteFile
          by_cases isSlot : IsSlot ino
          · rw [Prog.bind_of_ok (readInode_of_isSlot isSlot),
              if_pos (fun kind => notFile ⟨isSlot, kind⟩)]
            exact ⟨.isDir, rfl⟩
          · refine ⟨.invalid, Prog.bind_of_err ?_⟩
            unfold readInode
            rw [if_pos]
            · rfl
            · unfold IsSlot at isSlot
              omega
      | made _ checked =>
          refine (notFile ⟨checked.freshSlot, ?_⟩).elim
          rw [checked.created_fresh]
          rfl
  | err error last =>
      obtain rfl := resolveOrCreate_eq_err found
      exact ⟨error, Prog.bind_of_err found⟩
  | hang =>
      unfold resolveOrCreate at found
      split at found
      · rename_i missing
        obtain rfl := (resolveWith_readOnly _ _).2 missing
        exact
          (sound.tree.createEntry_ne_hang dst cwd 1 0o644 uid gid found).elim
      · exact (sound.tree.resolveWith_ne_hang dst cwd found).elim

include isFile in
theorem losesNothing_of_unchanged
    (reported : output ≠ [])
    (still : resolveWith src cwd final = .ok source final)
    (unchanged :
      ∀ slot, IsFile disk.inode slot → Unchanged disk final slot) :
    LosesNothing disk src dst cwd source output final where
  moved := fun silent => (reported silent).elim
  kept := fun _ =>
    readsAs_iff.mpr
      ⟨source, still, (unchanged source isFile).isFile isFile,
        (unchanged source isFile).contents⟩
  others := fun slot otherFile _ _ => unchanged slot otherFile

variable
  {ino : Nat}
  {table : Disk}
  (destination : Destination disk dst cwd uid gid ino table)
  (isTarget : IsFile table.inode ino)

include destination in
theorem apart_iff
    (isTarget : IsFile table.inode ino) :
    Apart candidate disk src dst cwd uid gid source ↔
      resolveWith src cwd table = .ok source table ∧
        (HasRoom candidate table ino (disk.contents source) →
          ∃ found,
            resolveWith dst cwd (table.without source) =
                .ok found (table.without source) ∧
              IsFile (table.without source).inode found ∧
              (found = ino ∨
                disk.contents found = disk.contents source)) := by
  constructor
  · intro apart
    exact apart ino table destination isTarget
  · intro holds other otherTable otherDestination _
    have returned := Destination.resolveOrCreate_iff.mpr destination
    rw [Destination.resolveOrCreate_iff.mpr otherDestination] at returned
    cases returned
    exact holds

include sound resolved isFile destination in
theorem losesNothing_iff_of_outOfRoom
    (reported : output ≠ [])
    (someData : disk.contents source ≠ [])
    (outOfRoom : OutOfRoom candidate table final) :
    LosesNothing disk src dst cwd source output final ↔
      resolveWith src cwd table = .ok source table := by
  have tableSound := destination.sound sound
  have sameLookups : SameLookups final table :=
    sameLookups_of_sameEntry
      (fun slot => by rw [outOfRoom.table]; exact ⟨rfl, rfl, rfl, rfl, rfl⟩)
      (fun _ isSlot _ => tableSound.tree.exists_lists isSlot)
  have unchanged :
      ∀ slot, IsFile disk.inode slot → Unchanged disk final slot := by
    intro slot slotFile
    have first := destination.unchanged slotFile
    exact first.trans
      (outOfRoom.unchanged tableSound.allocation (first.isFile slotFile))
  constructor
  · intro losesNothing
    obtain ⟨found, isFound, _, contents⟩ :=
      readsAs_iff.mp (losesNothing.kept reported)
    rw [sameLookups.resolveWith_iff] at isFound
    rcases destination.source sound resolved isFile isFound with
        same | ⟨isNew, _, newFile, isEmpty, _⟩
    · rwa [same] at isFound
    · have noBytes : final.contents found = [] := by
        unfold Disk.contents
        rw [isNew, outOfRoom.table, isEmpty]
        rfl
      rw [noBytes] at contents
      exact (someData contents.symm).elim
  · intro still
    exact losesNothing_of_unchanged isFile reported
      (sameLookups.resolveWith_iff.mpr still) unchanged

theorem exists_outcome_iff
    (returned :
      mv candidate src dst cwd uid gid disk = .ok output final) :
    (∃ shown last,
        mv candidate src dst cwd uid gid disk = .ok shown last ∧
          LosesNothing disk src dst cwd source shown last) ↔
      LosesNothing disk src dst cwd source output final := by
  constructor
  · rintro ⟨shown, last, alsoReturned, holds⟩
    rw [returned] at alsoReturned
    cases alsoReturned
    exact holds
  · intro holds
    exact ⟨output, final, returned, holds⟩

include destination in
theorem others_unchanged
    {middle final : Disk}
    {bytes : List UInt8}
    {target slot : Nat}
    (rewritten : Rewritten table middle ino bytes)
    (removed : Removed middle final target)
    (isOther : IsFile disk.inode slot)
    (notTarget : slot ≠ target)
    (notDestination : slot ≠ ino) :
    Unchanged disk final slot := by
  have first := destination.unchanged isOther
  have second :=
    rewritten.unchanged (first.isFile isOther) notDestination
  exact (first.trans second).trans
    (removed.others slot ((first.trans second).isFile isOther) notTarget)

include destination in
theorem ne_destination
    (isOther : IsFile disk.inode slot)
    (notNamed : resolveWith dst cwd disk ≠ .ok slot disk) :
    slot ≠ ino := by
  rintro rfl
  cases destination with
  | found isNamed =>
      exact notNamed isNamed
  | made _ checked =>
      have kind := isOther.2
      rw [checked.freshFree] at kind
      cases kind

include destination in
theorem readsAs_removed_iff
    {middle final : Disk}
    (rewritten : Rewritten table middle ino (disk.contents source))
    (middleSound : Sound candidate middle)
    (removed : Removed middle final source) :
    ReadsAs final dst cwd (disk.contents source) ↔
      ∃ found,
        resolveWith dst cwd (table.without source) =
            .ok found (table.without source) ∧
          IsFile (table.without source).inode found ∧
          (found = ino ∨ disk.contents found = disk.contents source) := by
  have sameLookups : SameLookups final (table.without source) := by
    refine removed.lookups.trans (SameLookups.symm ?_)
    refine sameLookups_of_sameEntry
      (SameEntry.without
        (fun slot => (rewritten.sameEntry slot).symm) source) ?_
    intro directory isSlot _
    obtain ⟨cells, lists⟩ := middleSound.tree.exists_lists isSlot
    exact ⟨cells, lists.without source⟩
  rw [readsAs_iff]
  refine exists_congr fun found => ?_
  rw [sameLookups.resolveWith_iff]
  refine and_congr_right fun _ => ?_
  have sameFiles :
      IsFile final.inode found ↔
        IsFile (table.without source).inode found := by
    by_cases isSource : found = source
    · rw [isSource]
      refine iff_of_false removed.gone ?_
      rintro ⟨_, kind⟩
      rw [without_self] at kind
      cases kind
    · have sameKind := (rewritten.sameEntry found).kind
      constructor
      · intro isFile
        obtain ⟨isSlot, kind⟩ := removed.files found isFile
        refine ⟨isSlot, ?_⟩
        rw [without_other isSource, ← sameKind]
        exact kind
      · rintro ⟨isSlot, kind⟩
        rw [without_other isSource, ← sameKind] at kind
        exact (removed.others found ⟨isSlot, kind⟩ isSource).isFile
          ⟨isSlot, kind⟩
  rw [sameFiles]
  refine and_congr_right fun isFile => ?_
  have notSource : found ≠ source := by
    rintro rfl
    have kind := isFile.2
    rw [without_self] at kind
    cases kind
  have tableFile : IsFile table.inode found := by
    obtain ⟨isSlot, kind⟩ := isFile
    rw [without_other notSource] at kind
    exact ⟨isSlot, kind⟩
  have middleFile : IsFile middle.inode found :=
    removed.files found (sameFiles.mpr isFile)
  have afterRemoval :=
    (removed.others found middleFile notSource).contents
  by_cases isDestination : found = ino
  · refine iff_of_true ?_ (.inl isDestination)
    rw [afterRemoval, isDestination]
    exact rewritten.contents
  · have before := destination.isFile_before tableFile isDestination
    rw [afterRemoval,
      (rewritten.unchanged tableFile isDestination).contents,
      (destination.unchanged before).contents]
    simp [isDestination]

include geometry sound resolved isFile destination isTarget in
/-- A move whose write returns. -/
theorem losesNothing_iff_of_written
    {middle : Disk}
    (read :
      readBuffer src cwd disk = .ok (.ok (disk.contents source)) disk)
    (written :
      writeFile candidate dst cwd (disk.contents source) uid gid disk =
        .ok () middle)
    (rewritten : Rewritten table middle ino (disk.contents source))
    (middleSound : Sound candidate middle) :
    (∃ output final,
        mv candidate src dst cwd uid gid disk = .ok output final ∧
          LosesNothing disk src dst cwd source output final) ↔
      resolveWith src cwd table = .ok source table ∧
        ∃ found,
          resolveWith dst cwd (table.without source) =
              .ok found (table.without source) ∧
            IsFile (table.without source).inode found ∧
            (found = ino ∨
              disk.contents found = disk.contents source) := by
  have tableSound := destination.sound sound
  have sameLookups : SameLookups middle table :=
    sameLookups_of_sameEntry rewritten.sameEntry
      (fun _ isSlot _ => tableSound.tree.exists_lists isSlot)
  have middleFile :
      ∀ slot, IsFile table.inode slot → IsFile middle.inode slot := by
    rintro slot ⟨isSlot, kind⟩
    exact ⟨isSlot, (rewritten.sameEntry slot).kind.trans kind⟩
  have sourceFile : IsFile table.inode source :=
    (destination.unchanged isFile).isFile isFile
  cases found : resolveWith src cwd middle with
  | ok target last =>
      obtain rfl : middle = last :=
        ((resolveWith_readOnly _ _).1 found).symm
      have tableFound := sameLookups.resolveWith_iff.mp found
      rcases destination.source sound resolved isFile tableFound with
          same | ⟨same, different, newFile, _, notFound⟩
      · subst same
        obtain ⟨final, removes, removed⟩ :=
          middleSound.remove_file geometry found
            (middleFile target sourceFile)
        rw [exists_outcome_iff (mv_of_removed read written removes),
          ← readsAs_removed_iff destination rewritten middleSound removed]
        constructor
        · intro losesNothing
          exact ⟨tableFound, losesNothing.moved rfl⟩
        · rintro ⟨_, reads⟩
          exact {
            moved := fun _ => reads
            kept := fun reported => (reported rfl).elim
            others := fun slot isOther notSource notNamed =>
              others_unchanged destination rewritten removed isOther notSource
                (ne_destination destination isOther notNamed)
          }
      · subst same
        obtain ⟨final, removes, removed⟩ :=
          middleSound.remove_file geometry found
            (middleFile target newFile)
        rw [exists_outcome_iff (mv_of_removed read written removes)]
        refine iff_of_false ?_ ?_
        · intro losesNothing
          obtain ⟨reached, resolves, _⟩ :=
            readsAs_iff.mp (losesNothing.moved rfl)
          have sameWithout :
              SameLookups (table.without target) (middle.without target) := by
            refine sameLookups_of_sameEntry
              (SameEntry.without
                (fun slot => (rewritten.sameEntry slot).symm) target) ?_
            intro directory isSlot _
            obtain ⟨cells, lists⟩ := middleSound.tree.exists_lists isSlot
            exact ⟨cells, lists.without target⟩
          rw [removed.lookups.resolveWith_iff,
            ← sameWithout.resolveWith_iff] at resolves
          exact notFound reached resolves
        · rintro ⟨still, _⟩
          rw [tableFound] at still
          cases still
          exact different rfl
  | err error last =>
      have removeFails :
          remove candidate src cwd middle = .err error last :=
        Prog.bind_of_err found
      rw [exists_outcome_iff (mv_of_remove_err read written removeFails)]
      obtain rfl := remove_eq_err removeFails
      refine iff_of_false ?_ ?_
      · intro losesNothing
        obtain ⟨reached, resolves, _⟩ :=
          readsAs_iff.mp (losesNothing.kept (by simp [failure]))
        rw [found] at resolves
        cases resolves
      · rintro ⟨still, _⟩
        rw [← sameLookups.resolveWith_iff, found] at still
        cases still
  | hang =>
      exact (middleSound.tree.resolveWith_ne_hang src cwd found).elim

end Moves

/--
`mv` of a file of at most 64 KiB returns and loses nothing exactly if source and
destination are apart: the entry of neither is needed to find the other.
-/
theorem mv_losesNothing_iff
    (geometry : Geometry candidate)
    (sound : Sound candidate disk)
    {source : Nat}
    (resolved : resolveWith src cwd disk = .ok source disk)
    (isFile : IsFile disk.inode source)
    (small : (disk.inode source).size ≤ bufSize) :
    (∃ output final,
        mv candidate src dst cwd uid gid disk = .ok output final ∧
          LosesNothing disk src dst cwd source output final) ↔
      Apart candidate disk src dst cwd uid gid source := by
  have read := readBuffer_of_file resolved isFile small
  by_cases reaches :
      ∃ ino table,
        Destination disk dst cwd uid gid ino table ∧
          IsFile table.inode ino
  · obtain ⟨ino, table, destination, isTarget⟩ := reaches
    have fits :
        (disk.contents source).length ≤ maxFileBlocks * blockSize := by
      rw [Disk.contents, length_window]
      simp only [bufSize, maxFileBlocks, blockSize] at small ⊢
      omega
    rw [apart_iff destination isTarget]
    have found := Destination.resolveOrCreate_iff.mpr destination
    rcases (destination.sound sound).rewrite_file geometry isTarget fits with
        ⟨room, middle, returned, rewritten, middleSound⟩ |
        ⟨noRoom, last, failed, outOfRoom⟩
    · have written :
          writeFile candidate dst cwd (disk.contents source) uid gid disk =
            .ok () middle :=
        (Prog.bind_of_ok found).trans returned
      rw [losesNothing_iff_of_written geometry sound resolved isFile
        destination isTarget read written rewritten middleSound]
      refine and_congr_right fun _ => ?_
      exact ⟨fun named _ => named, fun named => named room⟩
    · have writeFails :
          writeFile candidate dst cwd (disk.contents source) uid gid disk =
            .err .noSpace last :=
        (Prog.bind_of_ok found).trans failed
      have someData : disk.contents source ≠ [] := by
        intro noData
        refine noRoom (.inl ?_)
        rw [noData]
        simp [neededBlocks, blockSize]
      rw [exists_outcome_iff (mv_of_write_err read writeFails),
        losesNothing_iff_of_outOfRoom sound resolved isFile destination
          (by simp [failure]) someData outOfRoom]
      exact
        ⟨fun still => ⟨still, fun room => (noRoom room).elim⟩,
          fun both => both.1⟩
  · have noFile :
        ∀ ino table,
          Destination disk dst cwd uid gid ino table →
          ¬ IsFile table.inode ino :=
      fun ino table destination isTarget =>
        reaches ⟨ino, table, destination, isTarget⟩
    obtain ⟨error, failed⟩ :=
      @writeFile_of_no_file candidate disk dst cwd uid gid sound
        (disk.contents source) noFile
    refine iff_of_true ?_ ?_
    · exact ⟨_, disk, mv_of_write_err read failed,
        losesNothing_of_unchanged isFile (by simp [failure]) resolved
          fun slot _ => .refl disk slot⟩
    · intro ino table destination isTarget
      exact (noFile ino table destination isTarget).elim

/-! ## A disk with one file -/

theorem exists_written :
    ∃ disk,
      Sound smallDisk disk ∧
        resolveWith sampleName rootInode disk = .ok 2 disk ∧
        IsFile disk.inode 2 ∧
        (disk.inode 2).size ≤ bufSize ∧
        disk.contents 2 = sampleData ∧
        ∀ slot, IsFile disk.inode slot → slot = 2 := by
  obtain ⟨disk, sound, resolved, entered, only⟩ := exists_touched
  have isFile : IsFile disk.inode 2 := by
    refine ⟨by decide, ?_⟩
    rw [entered]
    rfl
  have noBlocks : (disk.inode 2).blockCount = 0 := by
    rw [entered]
    rfl
  have unused :
      ∀ slot block,
        IsFile disk.inode slot →
        ¬ (disk.inode slot).HasBlock block := by
    intro slot block file
    rw [only slot file]
    exact Inode.not_hasBlock noBlocks block
  obtain ⟨last, returned⟩ :=
    @writeFile_of_unused _ disk geometry_smallDisk sound.allocation sampleName
      rootInode 0 0 2 resolved isFile noBlocks unused
  have found :
      resolveOrCreate sampleName rootInode 0 0 disk = .ok 2 disk :=
    Destination.resolveOrCreate_iff.mpr (.found resolved)
  have written : rewriteFile smallDisk 2 sampleData disk = .ok () last :=
    (Prog.bind_of_ok found).symm.trans returned
  have fits : sampleData.length ≤ maxFileBlocks * blockSize := by
    simp [sampleData, maxFileBlocks, blockSize]
  rcases sound.rewrite_file geometry_smallDisk isFile fits with
      ⟨_, final, returns, rewritten, finalSound⟩ | ⟨_, _, fails, _⟩
  · have sameKind :
        ∀ slot, IsFile final.inode slot ↔ IsFile disk.inode slot := by
      intro slot
      unfold IsFile
      rw [(rewritten.sameEntry slot).kind]
    obtain ⟨start, count, table⟩ := rewritten.table
    refine ⟨final, finalSound,
      resolveWith_same rewritten.sameEntry resolved, (sameKind 2).mpr isFile,
      ?_, rewritten.contents,
      fun slot file => only slot ((sameKind slot).mp file)⟩
    rw [table, Function.update_self]
    exact (by decide : sampleData.length ≤ bufSize)
  · rw [written] at fails
    cases fails

/-- `mv f /` reports an error and keeps `f`. -/
theorem mv_losesNothing_onto_root :
    ∃ disk output final,
      mv smallDisk sampleName [slash] rootInode 0 0 disk =
          .ok output final ∧
        LosesNothing disk sampleName [slash] rootInode 2 output final := by
  obtain ⟨disk, sound, resolved, isFile, small, _⟩ := exists_written
  refine ⟨disk,
    (mv_losesNothing_iff geometry_smallDisk sound resolved isFile small).mpr
      ?_⟩
  intro ino table destination isTarget
  cases destination with
  | found atRoot =>
      cases atRoot
      have kind := isTarget.2
      rw [sound.tree.rootDirectory] at kind
      cases kind
  | made missing _ =>
      cases missing

/-- `./f`, another spelling of `f`. -/
def otherSpelling : List UInt8 :=
  [46, 47, 102]

/-- `mv f ./f` reports no error, and no file is left. -/
theorem mv_loses_file :
    ∃ disk final,
      Sound smallDisk disk ∧
        resolveWith sampleName rootInode disk = .ok 2 disk ∧
        IsFile disk.inode 2 ∧
        disk.contents 2 = sampleData ∧
        mv smallDisk sampleName otherSpelling rootInode 0 0 disk =
          .ok [] final ∧
        ¬ ReadsAs final otherSpelling rootInode sampleData := by
  obtain ⟨disk, sound, resolved, isFile, small, contents, only⟩ :=
    exists_written
  have read := readBuffer_of_file resolved isFile small
  have alsoResolved :
      resolveWith otherSpelling rootInode disk = .ok 2 disk := by
    rw [← resolved]
    rfl
  have found :
      resolveOrCreate otherSpelling rootInode 0 0 disk = .ok 2 disk :=
    Destination.resolveOrCreate_iff.mpr (.found alsoResolved)
  have fits :
      (disk.contents 2).length ≤ maxFileBlocks * blockSize := by
    rw [contents]
    simp [sampleData, maxFileBlocks, blockSize]
  have needed : neededBlocks (disk.contents 2) = 1 := by
    rw [contents]
    simp [neededBlocks, sampleData, blockSize]
  -- The only blocks in use are those that the file gives back.
  have room : HasRoom smallDisk disk 2 (disk.contents 2) := by
    right
    rw [needed]
    intro noRoom
    have below := geometry_smallDisk.dataBelow
    refine noRoom smallDisk.dataStart (Nat.le_refl _) below ?_
    intro block lower upper
    have isData : smallDisk.IsData block := ⟨lower, by omega⟩
    by_contra isSet
    rw [Bool.not_eq_false, Disk.bitWithout, Bool.and_eq_true] at isSet
    obtain ⟨slot, file, hasBlock⟩ :=
      (sound.allocation.exact isData).mp isSet.1
    rw [only slot file] at hasBlock
    have inRun :
        InRun (disk.inode 2).startBlock (disk.inode 2).blockCount block :=
      hasBlock
    simp [inRun] at isSet
  rcases sound.rewrite_file geometry_smallDisk isFile fits with
      ⟨_, middle, returns, rewritten, middleSound⟩ | ⟨noRoom, _⟩
  · have written :
        writeFile smallDisk otherSpelling rootInode (disk.contents 2) 0 0
            disk =
          .ok () middle :=
      (Prog.bind_of_ok found).trans returns
    have sameKind :
        ∀ slot, IsFile middle.inode slot ↔ IsFile disk.inode slot := by
      intro slot
      unfold IsFile
      rw [(rewritten.sameEntry slot).kind]
    obtain ⟨final, removes, removed⟩ :=
      middleSound.remove_file geometry_smallDisk
        (resolveWith_same rewritten.sameEntry resolved)
        ((sameKind 2).mpr isFile)
    refine ⟨disk, final, sound, resolved, isFile, contents,
      mv_of_removed read written removes, ?_⟩
    intro reads
    obtain ⟨reached, _, stillFile, _⟩ := readsAs_iff.mp reads
    have isSecond :=
      only reached ((sameKind reached).mp (removed.files reached stillFile))
    rw [isSecond] at stillFile
    exact removed.gone stillFile
  · exact (noRoom room).elim

end VibuxOS.Commands
