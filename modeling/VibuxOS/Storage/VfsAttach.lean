import VibuxOS.Lib.Record
import VibuxOS.Storage.VfsBitmap

namespace VibuxOS.Storage.Vfs

open VibuxOS.Lib

/-!
# Attaching a namespace

`attach` computes a geometry from the size of the namespace, mounts what has this
geometry and formats everything else.  The size is counted in 64 bits and the
geometry in 32; the limits are checked after the cast.
-/

variable {candidate : FsMeta}

/-- Why `attach` does not go on. -/
inductive AttachError where
  | unsupportedBlockSize
  | diskTooSmall
  | tooBig
  | layoutError
  | formatFailed
  deriving Repr, DecidableEq

/-- `u32::from_le_bytes` of the four bytes at an offset -/
def getU32 (bytes : Nat → UInt8) (offset : Nat) : Nat :=
  leValue (fun index => bytes (offset + index)) 4

def parseSuper (block : Nat → UInt8) : Option FsMeta :=
  if (List.range 8).map block ≠ fsMagic then
    none
  else
    some
      { totalBlocks := getU32 block 8
        bitmapBlocks := getU32 block 12 }

/-- The number of whole blocks behind `FS_START_BYTES`. -/
def wholeBlocks (namespaceBytes : UInt64) : Nat :=
  (namespaceBytes.toNat - fsStartBytes) / blockSize

def bitmapNeeded (totalBlocks : Nat) : Nat :=
  ((totalBlocks + 7) / 8 + blockSize - 1) / blockSize

/-- The checks of `attach` and the geometry that it computes. -/
def geometryOf
    (namespaceBytes lbaBytes : UInt64) :
    Except AttachError FsMeta :=
  if lbaBytes = 0 ∨ blockSize % lbaBytes.toNat ≠ 0 then
    .error .unsupportedBlockSize
  else
    let totalBlocks := wholeBlocks namespaceBytes
    if totalBlocks < 1024 then
      .error .diskTooSmall
    else
      let bitmapBlocks := bitmapNeeded totalBlocks % 2 ^ 32
      if maxBitmapBytes < bitmapBlocks * blockSize then
        .error .tooBig
      else if totalBlocks % 2 ^ 32 ≤ bitmapStart + bitmapBlocks then
        .error .layoutError
      else
        .ok
          { totalBlocks := totalBlocks % 2 ^ 32
            bitmapBlocks := bitmapBlocks }

/-- `attach`, with the geometry of the state and whether it was mounted. -/
def attach
    (namespaceBytes lbaBytes : UInt64) :
    Prog Disk AttachError (FsMeta × Bool) := do
  let candidate ← Prog.ofExcept (geometryOf namespaceBytes lbaBytes)
  let block ←
    Prog.mapError (fun _ => AttachError.formatFailed)
      (readRange (blockBytes 0))
  match (parseSuper block).filter (· = candidate) with
  | some existing => pure (existing, true)
  | none => do
      let formatted ←
        Prog.mapError (fun _ => AttachError.formatFailed) (format candidate)
      pure (formatted, false)

/-! ## The geometry -/

/-- What the file system relies on about the geometry of a namespace. -/
structure ConsistentGeometry
    (namespaceBytes : UInt64)
    (candidate : FsMeta) : Prop where
  geometry : Geometry candidate
  inNamespace :
    fsStartBytes + blockSize * candidate.totalBlocks ≤ namespaceBytes.toNat
  untruncated : candidate.totalBlocks = wholeBlocks namespaceBytes
  loads : blockSize * candidate.bitmapBlocks ≤ maxBitmapBytes
  tests :
    ∀ bitmap block disk,
      block < candidate.totalBlocks →
      bitIsSet bitmap block disk ≠ .hang ∧
        setBit bitmap block disk ≠ .hang ∧
        clearBit bitmap block disk ≠ .hang

/-- The size of the bitmap does not come out small by the cast alone. -/
def CountsFit (namespaceBytes lbaBytes : UInt64) : Prop :=
  bitmapNeeded (wholeBlocks namespaceBytes) < 2 ^ 32 ∨
    (lbaBytes = 0 ∨ blockSize % lbaBytes.toNat ≠ 0) ∨
    4 < bitmapNeeded (wholeBlocks namespaceBytes) % 2 ^ 32 ∨
    wholeBlocks namespaceBytes % 2 ^ 32 ≤
      bitmapStart + bitmapNeeded (wholeBlocks namespaceBytes) % 2 ^ 32

theorem geometryOf_eq_ok
    {namespaceBytes lbaBytes : UInt64} :
    geometryOf namespaceBytes lbaBytes = .ok candidate ↔
      ¬ (lbaBytes = 0 ∨ blockSize % lbaBytes.toNat ≠ 0) ∧
        1024 ≤ wholeBlocks namespaceBytes ∧
        candidate.bitmapBlocks =
          bitmapNeeded (wholeBlocks namespaceBytes) % 2 ^ 32 ∧
        candidate.totalBlocks = wholeBlocks namespaceBytes % 2 ^ 32 ∧
        candidate.bitmapBlocks * blockSize ≤ maxBitmapBytes ∧
        bitmapStart + candidate.bitmapBlocks < candidate.totalBlocks := by
  unfold geometryOf
  dsimp only
  constructor
  · intro accepted
    split at accepted
    · cases accepted
    · rename_i supported
      split at accepted
      · cases accepted
      · rename_i large
        split at accepted
        · cases accepted
        · rename_i small
          split at accepted
          · cases accepted
          · rename_i roomy
            cases accepted
            exact
              ⟨supported, Nat.le_of_not_lt large, rfl, rfl,
                Nat.le_of_not_lt small, Nat.lt_of_not_le roomy⟩
  · rintro ⟨supported, large, isBitmap, isTotal, small, roomy⟩
    rw [← isBitmap, ← isTotal, if_neg supported,
      if_neg (Nat.not_lt_of_le large), if_neg (Nat.not_lt_of_le small),
      if_neg (Nat.not_le_of_lt roomy)]

theorem geometryOf_of_attach
    {namespaceBytes lbaBytes : UInt64}
    {disk final : Disk}
    {mounted : Bool}
    (attached :
      attach namespaceBytes lbaBytes disk = .ok (candidate, mounted) final) :
    geometryOf namespaceBytes lbaBytes = .ok candidate := by
  obtain ⟨computed, accepted, goesOn⟩ := Prog.ofExcept_bind_eq_ok.mp attached
  obtain ⟨block, middle, _, goesOn⟩ := Prog.bind_eq_ok.mp goesOn
  cases found : (parseSuper block).filter (· = computed) with
  | some existing =>
      rw [found] at goesOn
      cases goesOn
      have same := (Option.filter_eq_some_iff.mp found).2
      rw [decide_eq_true_eq] at same
      rw [same]
      exact accepted
  | none =>
      rw [found] at goesOn
      obtain ⟨formatted, last, isFormatted, goesOn⟩ :=
        Prog.bind_eq_ok.mp goesOn
      cases goesOn
      rw [Prog.mapError_eq_ok] at isFormatted
      unfold format at isFormatted
      obtain ⟨_, _, _, isFormatted⟩ := Prog.bind_eq_ok.mp isFormatted
      obtain ⟨_, _, _, isFormatted⟩ := Prog.bind_eq_ok.mp isFormatted
      obtain ⟨_, _, _, isFormatted⟩ := Prog.bind_eq_ok.mp isFormatted
      obtain ⟨_, _, _, isFormatted⟩ := Prog.bind_eq_ok.mp isFormatted
      cases isFormatted
      exact accepted

theorem consistent_of_small
    {namespaceBytes lbaBytes : UInt64}
    (accepted : geometryOf namespaceBytes lbaBytes = .ok candidate)
    (small : bitmapNeeded (wholeBlocks namespaceBytes) < 2 ^ 32) :
    ConsistentGeometry namespaceBytes candidate := by
  obtain ⟨_, large, isBitmap, isTotal, fits, roomy⟩ :=
    geometryOf_eq_ok.mp accepted
  rw [Nat.mod_eq_of_lt small] at isBitmap
  have size : blockSize = 4096 := by simp only [blockSize]
  have covered :
      wholeBlocks namespaceBytes ≤ 8 * blockSize * candidate.bitmapBlocks := by
    rw [isBitmap, bitmapNeeded, size]
    omega
  have limit : maxBitmapBytes = 16384 := rfl
  have few : wholeBlocks namespaceBytes < 2 ^ 32 := by
    rw [size] at covered fits
    omega
  rw [Nat.mod_eq_of_lt few] at isTotal
  have isGeometry : Geometry candidate := by
    constructor
    · exact roomy
    · rw [isTotal]
      exact covered
    · rw [FsMeta.capacity, size]
      rw [size] at fits
      omega
  constructor
  · exact isGeometry
  · rw [isTotal]
    rw [wholeBlocks, size] at large ⊢
    omega
  · exact isTotal
  · rw [Nat.mul_comm]
    exact fits
  · intro bitmap block disk below
    have inside : block < 8 * maxBitmapBytes :=
      Nat.lt_of_lt_of_le below
        (Nat.le_trans isGeometry.covered isGeometry.fits)
    refine ⟨?_, ?_, ?_⟩
    · rw [bitIsSet, Prog.bind_of_ok (checkBitmapIndex_of_lt inside)]
      intro stuck
      cases stuck
    · rw [setBit, Prog.bind_of_ok (checkBitmapIndex_of_lt inside)]
      intro stuck
      cases stuck
    · rw [clearBit, Prog.bind_of_ok (checkBitmapIndex_of_lt inside)]
      intro stuck
      cases stuck

/-! ## The superblock -/

theorem leValue_le32
    {value : Nat}
    (small : value < 2 ^ 32)
    {bytes : Nat → UInt8}
    (spelled : ∀ index < 4, bytes index = (le32 value).getD index 0) :
    leValue bytes 4 = value := by
  have zero := spelled 0 (by decide)
  have one := spelled 1 (by decide)
  have two := spelled 2 (by decide)
  have three := spelled 3 (by decide)
  simp only [le32, List.getD_cons_zero, List.getD_cons_succ] at zero one two three
  simp only [leValue, zero, one, two, three, UInt8.toNat_ofNat']
  omega

theorem parseSuper_superBytes
    (total : candidate.totalBlocks < 2 ^ 32)
    (bitmap : candidate.bitmapBlocks < 2 ^ 32)
    {block : Nat → UInt8}
    (written : ∀ index < 16, block index = superBytes candidate index) :
    parseSuper block = some candidate := by
  have isMagic : (List.range 8).map block = fsMagic := by
    have first := fun index (inside : index < 8) => written index (by omega)
    simp only [List.range, List.range.loop, List.map_cons, List.map_nil,
      first 0 (by decide), first 1 (by decide), first 2 (by decide),
      first 3 (by decide), first 4 (by decide), first 5 (by decide),
      first 6 (by decide), first 7 (by decide)]
    rfl
  have isTotal : getU32 block 8 = candidate.totalBlocks := by
    apply leValue_le32 total
    intro index inside
    rw [written _ (by omega), superBytes, List.append_assoc,
      List.getD_append_right _ _ _ _ (by simp [fsMagic]),
      List.getD_append _ _ _ _ (by simp [fsMagic, le32]; omega)]
    simp [fsMagic]
  have isBitmap : getU32 block 12 = candidate.bitmapBlocks := by
    apply leValue_le32 bitmap
    intro index inside
    rw [written _ (by omega), superBytes,
      List.getD_append_right _ _ _ _ (by simp [fsMagic, le32])]
    simp [fsMagic, le32]
  unfold parseSuper
  rw [if_neg (not_not_intro isMagic), isTotal, isBitmap]

theorem attach_of_super
    {namespaceBytes lbaBytes : UInt64}
    (accepted : geometryOf namespaceBytes lbaBytes = .ok candidate)
    (total : candidate.totalBlocks < 2 ^ 32)
    (bitmap : candidate.bitmapBlocks < 2 ^ 32)
    (inode : Nat → Inode) :
    let disk : Disk :=
      { inode
        bytes := fun address => superBytes candidate (address - blockBytes 0) }
    attach namespaceBytes lbaBytes disk = .ok (candidate, true) disk := by
  intro disk
  have parsed :
      parseSuper (fun index => disk.bytes (blockBytes 0 + index)) =
        some candidate := by
    apply parseSuper_superBytes total bitmap
    intro index _
    exact congrArg (superBytes candidate) (Nat.add_sub_cancel_left _ _)
  have reads :
      Prog.mapError (fun _ => AttachError.formatFailed)
          (readRange (blockBytes 0)) disk =
        .ok (fun index => disk.bytes (blockBytes 0 + index)) disk :=
    rfl
  unfold attach
  rw [accepted]
  refine Prog.ofExcept_bind_eq_ok.mpr ⟨_, rfl, ?_⟩
  rw [Prog.bind_of_ok reads, parsed, Option.filter_some, if_pos (by simp)]
  rfl

theorem not_consistent_of_narrowed
    {namespaceBytes lbaBytes : UInt64}
    (narrowed : ¬ CountsFit namespaceBytes lbaBytes) :
    ∃ disk candidate,
      attach namespaceBytes lbaBytes disk = .ok (candidate, true) disk ∧
        ¬ ConsistentGeometry namespaceBytes candidate := by
  simp only [CountsFit, not_or, Nat.not_lt, Nat.not_le] at narrowed
  obtain ⟨large, supported, few, roomy⟩ := narrowed
  have size : blockSize = 4096 := by simp only [blockSize]
  have limit : maxBitmapBytes = 16384 := rfl
  have many : 2 ^ 32 ≤ wholeBlocks namespaceBytes := by
    rw [bitmapNeeded, size] at large
    omega
  have accepted :
      geometryOf namespaceBytes lbaBytes =
        .ok
          { totalBlocks := wholeBlocks namespaceBytes % 2 ^ 32
            bitmapBlocks :=
              bitmapNeeded (wholeBlocks namespaceBytes) % 2 ^ 32 } := by
    apply geometryOf_eq_ok.mpr
    refine ⟨?_, by omega, rfl, rfl, ?_, roomy⟩
    · rintro (isZero | uneven)
      · exact supported.1 isZero
      · exact supported.2 uneven
    · dsimp only
      rw [size]
      omega
  have attached :=
    attach_of_super accepted (Nat.mod_lt _ (by decide))
      (Nat.mod_lt _ (by decide)) fun _ => Inode.zero
  refine ⟨_, _, attached, fun consistent => ?_⟩
  have untruncated := consistent.untruncated
  dsimp only at untruncated
  omega

/--
`attach` goes on with a consistent geometry only, exactly if the size of the
bitmap does not come out small by the cast to 32 bits.
-/
theorem attach_consistent_iff (namespaceBytes lbaBytes : UInt64) :
    (∀ disk candidate mounted final,
        attach namespaceBytes lbaBytes disk =
          .ok (candidate, mounted) final →
        ConsistentGeometry namespaceBytes candidate) ↔
      CountsFit namespaceBytes lbaBytes := by
  constructor
  · intro consistent
    by_contra narrowed
    obtain ⟨disk, candidate, attached, inconsistent⟩ :=
      not_consistent_of_narrowed narrowed
    exact inconsistent (consistent _ _ _ _ attached)
  · intro fits disk candidate mounted final attached
    have accepted := geometryOf_of_attach attached
    obtain ⟨supported, _, isBitmap, isTotal, small, roomy⟩ :=
      geometryOf_eq_ok.mp accepted
    rcases fits with few | unsupported | tooBig | cramped
    · exact consistent_of_small accepted few
    · exact absurd unsupported supported
    · have size : blockSize = 4096 := by simp only [blockSize]
      have limit : maxBitmapBytes = 16384 := rfl
      rw [← isBitmap] at tooBig
      rw [size] at small
      omega
    · rw [← isBitmap, ← isTotal] at cramped
      omega

/-- A namespace with `2^47 + 1024` blocks is taken for one with 1024 blocks. -/
theorem attach_narrows :
    ¬ ∀ disk candidate mounted final,
      attach 0x0800000002400000 512 disk = .ok (candidate, mounted) final →
      ConsistentGeometry 0x0800000002400000 candidate := by
  have narrowed : ¬ CountsFit 0x0800000002400000 512 := by
    have whole : wholeBlocks 0x0800000002400000 = 2 ^ 47 + 1024 := by
      simp only [wholeBlocks, fsStartBytes, blockSize]
      rfl
    have start : bitmapStart = 129 := by
      simp only [bitmapStart, inodeStart, inodeBlocks, inodeCount, inodeSize,
        blockSize]
    simp only [CountsFit, whole, start, bitmapNeeded, blockSize]
    decide
  obtain ⟨disk, candidate, attached, inconsistent⟩ :=
    not_consistent_of_narrowed narrowed
  exact fun consistent => inconsistent (consistent _ _ _ _ attached)

/-! ## A formatted disk -/

/-- The file system is empty, and all of its data blocks are free. -/
structure EmptyFileSystem
    (candidate : FsMeta)
    (disk : Disk) : Prop where
  rootKind : (disk.inode rootInode).kind = 2
  rootEmpty : (disk.inode rootInode).firstChild = 0
  free :
    ∀ slot,
      2 ≤ slot →
      slot ≤ inodeCount →
      (disk.inode slot).kind = 0
  bits :
    ∃ bitmap,
      loadBitmap candidate disk = .ok bitmap disk ∧
        ∀ block,
          block < candidate.totalBlocks →
          bitIsSet bitmap block disk =
            .ok (decide (block < candidate.dataStart)) disk
  super :
    parseSuper (fun index => disk.bytes (blockBytes 0 + index)) =
      some candidate

theorem geometry_of_bitmap
    {namespaceBytes lbaBytes : UInt64}
    (accepted : geometryOf namespaceBytes lbaBytes = .ok candidate)
    (hasBitmap : candidate.bitmapBlocks ≠ 0) :
    Geometry candidate := by
  obtain ⟨_, _, isBitmap, isTotal, fits, roomy⟩ :=
    geometryOf_eq_ok.mp accepted
  have size : blockSize = 4096 := by simp only [blockSize]
  have limit : maxBitmapBytes = 16384 := rfl
  rw [bitmapNeeded, size] at isBitmap
  rw [size] at fits
  constructor
  · exact roomy
  · rw [FsMeta.capacity, size]
    omega
  · rw [FsMeta.capacity, size]
    omega

theorem format_without_bitmap
    (noBitmap : candidate.bitmapBlocks = 0)
    (disk : Disk) :
    ∃ final, format candidate disk = .ok candidate final := by
  have stored :
      ∀ bitmap written, storeBitmap candidate bitmap written = .ok () written := by
    intro bitmap written
    rw [storeBitmap, noBitmap]
    rfl
  unfold format
  simp only [writeRange, Prog.modify_bind_apply]
  obtain ⟨marked, reserve, _⟩ :=
    @reserveBlocks_spec
      { disk with
        bytes :=
          blit disk.bytes (blockBytes 0)
            (fun index =>
              (fsMagic ++ le32 candidate.totalBlocks ++
                le32 candidate.bitmapBlocks).getD index 0)
            blockSize }
      (fun _ => 0) (List.range (bitmapStart + candidate.bitmapBlocks))
  rw [Prog.bind_of_ok reserve, Prog.bind_of_ok (stored marked _)]
  exact ⟨_, rfl⟩

theorem not_empty_of_no_bitmap
    {disk : Disk}
    (noBitmap : candidate.bitmapBlocks = 0)
    (some : 0 < candidate.totalBlocks) :
    ¬ EmptyFileSystem candidate disk := by
  intro empty
  obtain ⟨bitmap, loaded, bits⟩ := empty.bits
  rw [loadBitmap, noBitmap] at loaded
  cases loaded
  have first := bits 0 some
  rw [bitIsSet, Prog.bind_of_ok (checkBitmapIndex_of_lt (by decide))] at first
  have isReserved : 0 < candidate.dataStart :=
    Nat.lt_of_lt_of_le (by decide : 0 < inodeStart) (by
      unfold FsMeta.dataStart bitmapStart
      omega)
  have noBit : bitOf (fun _ => 0) 0 = false := by decide
  rw [noBit, decide_eq_true isReserved] at first
  cases first

/--
`format` empties a disk exactly if nothing is in the inode slots that it does not
write and the geometry has a bitmap.
-/
theorem format_empties_iff
    {namespaceBytes lbaBytes : UInt64}
    {candidate : FsMeta}
    (accepted : geometryOf namespaceBytes lbaBytes = .ok candidate)
    (disk : Disk) :
    ∃ final,
      format candidate disk = .ok candidate final ∧
        (EmptyFileSystem candidate final ↔
          candidate.bitmapBlocks ≠ 0 ∧
            ∀ slot,
              inodesPerBlock < slot →
              slot ≤ inodeCount →
              (disk.inode slot).kind = 0) := by
  obtain ⟨_, _, isBitmap, isTotal, fits, roomy⟩ :=
    geometryOf_eq_ok.mp accepted
  by_cases noBitmap : candidate.bitmapBlocks = 0
  · obtain ⟨final, formatted⟩ := format_without_bitmap noBitmap disk
    refine ⟨final, formatted, fun empty => ?_, fun holds => ?_⟩
    · exact absurd empty (not_empty_of_no_bitmap noBitmap (by omega))
    · exact absurd noBitmap holds.1
  have geometry := geometry_of_bitmap accepted noBitmap
  obtain ⟨final, formatted, slots, bits, before⟩ :=
    format_leaves geometry disk
  have size : blockSize = 4096 := by simp only [blockSize]
  have perBlock : inodesPerBlock = 32 := by
    simp only [inodesPerBlock, blockSize, inodeSize]
  have root : rootInode = 1 := rfl
  refine ⟨final, formatted, fun empty => ⟨noBitmap, ?_⟩, ?_⟩
  · intro slot beyond inside
    rw [← empty.free slot (by omega) inside, slots, if_neg (by omega),
      if_neg (by omega)]
  · rintro ⟨_, wasFree⟩
    constructor
    · rw [slots, if_pos rfl]
      rfl
    · rw [slots, if_pos rfl]
      rfl
    · intro slot second inside
      rw [slots, if_neg (by omega)]
      split
      · rfl
      · exact wasFree slot (by omega) inside
    · obtain ⟨bitmap, loaded, shown⟩ :=
        @loadBitmap_spec candidate final geometry
      refine ⟨bitmap, loaded, ?_⟩
      intro block below
      have inCapacity := Nat.lt_of_lt_of_le below geometry.covered
      have inside := Nat.lt_of_lt_of_le inCapacity geometry.fits
      rw [bitIsSet, Prog.bind_of_ok (checkBitmapIndex_of_lt inside),
        shown block inCapacity, bits block inCapacity]
      rfl
    · apply parseSuper_superBytes
      · rw [isTotal]
        exact Nat.mod_lt _ (by decide)
      · rw [isBitmap]
        exact Nat.mod_lt _ (by decide)
      · intro index inside
        have start : bitmapStart = 129 := by
          simp only [bitmapStart, inodeStart, inodeBlocks, inodeCount,
            inodeSize, blockSize]
        have below : blockBytes 0 + index < bitmapBytes := by
          rw [bitmapBytes, blockBytes, blockBytes, start, size]
          omega
        rw [before _ below, blit_inside (Nat.le_add_right _ _) (by omega),
          Nat.add_sub_cancel_left]

theorem accepted_small :
    geometryOf 0x2800000 512 =
      .ok { totalBlocks := 2048, bitmapBlocks := 1 } := by
  have whole : wholeBlocks 0x2800000 = 2048 := by
    simp only [wholeBlocks, fsStartBytes, blockSize]
    rfl
  have start : bitmapStart = 129 := by
    simp only [bitmapStart, inodeStart, inodeBlocks, inodeCount, inodeSize,
      blockSize]
  simp only [geometryOf, whole, start, bitmapNeeded, blockSize]
  rfl

/-- A disk of zeros is empty after it was formatted. -/
theorem format_empties_blank :
    ∃ final,
      format { totalBlocks := 2048, bitmapBlocks := 1 } Disk.blank =
          .ok { totalBlocks := 2048, bitmapBlocks := 1 } final ∧
        EmptyFileSystem { totalBlocks := 2048, bitmapBlocks := 1 } final := by
  obtain ⟨final, formatted, empty⟩ :=
    format_empties_iff accepted_small Disk.blank
  exact ⟨final, formatted, empty.mpr ⟨by decide, fun _ _ _ => rfl⟩⟩

/-- A record that lies behind the first block of slots is still there. -/
theorem format_leaves_old :
    ∃ disk final,
      format { totalBlocks := 2048, bitmapBlocks := 1 } disk =
          .ok { totalBlocks := 2048, bitmapBlocks := 1 } final ∧
        ¬ EmptyFileSystem { totalBlocks := 2048, bitmapBlocks := 1 } final := by
  have geometry :=
    geometry_of_bitmap accepted_small (Nat.succ_ne_zero 0)
  obtain ⟨final, formatted, slots, _⟩ :=
    format_leaves geometry
      { Disk.blank with inode := fun _ => { Inode.zero with kind := 1 } }
  refine ⟨_, final, formatted, fun empty => ?_⟩
  have perBlock : inodesPerBlock = 32 := by
    simp only [inodesPerBlock, blockSize, inodeSize]
  have isFree := empty.free 33 (by decide) (by decide)
  rw [slots, if_neg (by decide), if_neg (by omega)] at isFree
  cases isFree

end VibuxOS.Storage.Vfs
