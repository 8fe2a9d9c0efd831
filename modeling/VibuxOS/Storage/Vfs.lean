import Mathlib.Algebra.Group.Nat.Defs
import VibuxOS.Lib.Prog
import VibuxOS.Lib.Buffer

namespace VibuxOS.Storage.Vfs

open VibuxOS.Lib

/-!
# VIBUXFS

The file system of `storage/vfs.rs`: a superblock, 128 blocks of inode slots,
a block bitmap and a data area.  Inode slots store and return the `Inode`
record faithfully; everything else on the disk is bytes.  The device never
fails, so `read_range` and `write_range` are total.

A call is a program over the disk.  It `hang`s where the source does not
return: at an index past the in-memory bitmap, which panics, and in a sibling
walk that takes more steps than there are inodes, which has met a slot twice
and goes round forever.
-/

/-- `BLOCK_SIZE`; addresses are compared without counting through it. -/
@[irreducible] def blockSize : Nat := 4096

def inodeStart : Nat := 1

def inodeCount : Nat := 4096

def inodeSize : Nat := 128

def inodeBlocks : Nat := inodeCount * inodeSize / blockSize

def inodesPerBlock : Nat := blockSize / inodeSize

def bitmapStart : Nat := inodeStart + inodeBlocks

@[irreducible] def fsStartBytes : Nat := 32 * 1024 * 1024

/-- `FS_MAGIC`, the bytes of `VIBUXFS1` -/
def fsMagic : List UInt8 := [86, 73, 66, 85, 88, 70, 83, 49]

def maxBitmapBytes : Nat := 16384

def maxFileBlocks : Nat := 1024

def rootInode : Nat := 1

/-- The byte `/`. -/
def slash : UInt8 := 47

/-- The component `.`. -/
def dot : List UInt8 := [46]

/-- The component `..`. -/
def dotDot : List UInt8 := [46, 46]

inductive FsError where
  | offline
  | io
  | invalid
  | notFound
  | exists
  | notDir
  | isDir
  | notEmpty
  | permission
  | noSpace
  | tooLarge
  deriving Repr, DecidableEq

structure FsMeta where
  totalBlocks : Nat
  bitmapBlocks : Nat
  deriving Repr, DecidableEq

namespace FsMeta

def dataStart (candidate : FsMeta) : Nat :=
  bitmapStart + candidate.bitmapBlocks

def dataBlocks (candidate : FsMeta) : Nat :=
  candidate.totalBlocks - candidate.dataStart

end FsMeta

/-- An inode record; `kind` is 0 for a free slot, 1 for a file, 2 for a directory. -/
structure Inode where
  kind : Nat
  mode : Nat
  uid : Nat
  gid : Nat
  parent : Nat
  firstChild : Nat
  nextSibling : Nat
  size : Nat
  startBlock : Nat
  blockCount : Nat
  generation : Nat
  name : List UInt8
  deriving Repr, DecidableEq

namespace Inode

/-- The record `zero_inode` writes, which is also what zero bytes read as. -/
def zero : Inode where
  kind := 0
  mode := 0
  uid := 0
  gid := 0
  parent := 0
  firstChild := 0
  nextSibling := 0
  size := 0
  startBlock := 0
  blockCount := 0
  generation := 0
  name := List.replicate 56 0

/-- The stored name up to its first zero byte. -/
def nameSlice (inode : Inode) : List UInt8 :=
  inode.name.takeWhile (· ≠ 0)

end Inode

/-- The disk: inode slots by number, all other bytes by device address. -/
structure Disk where
  inode : Nat → Inode
  bytes : Nat → UInt8

/-- A program of the file system. -/
abbrev Fs (α : Type) := Prog Disk FsError α

/-- An in-memory block bitmap, `[u8; MAX_BITMAP_BYTES]`. -/
abbrev Bitmap := Nat → UInt8

def blockBytes (fsBlock : Nat) : Nat :=
  fsStartBytes + fsBlock * blockSize

/-- `nvme.read_range`: the bytes from an address on. -/
def readRange (offset : Nat) : Fs (Nat → UInt8) :=
  Prog.gets fun disk index => disk.bytes (offset + index)

/-- `nvme.write_range` of the first `length` bytes of a buffer. -/
def writeRange (offset length : Nat) (buffer : Nat → UInt8) : Fs Unit :=
  Prog.modify fun disk =>
    { disk with bytes := blit disk.bytes offset buffer length }

/-! ## The bitmap -/

/-- The loop of `load_bitmap`, with the number of blocks still to read. -/
def loadBitmapFrom : Nat → Nat → Nat → Bitmap → Fs Bitmap
  | 0, _, _, bitmap => pure bitmap
  | remaining + 1, index, offset, bitmap => do
      let block ← readRange (blockBytes (bitmapStart + index))
      let copy := min blockSize (maxBitmapBytes - offset)
      loadBitmapFrom remaining (index + 1) (offset + copy)
        (blit bitmap offset block copy)

def loadBitmap (candidate : FsMeta) : Fs Bitmap :=
  loadBitmapFrom candidate.bitmapBlocks 0 0 fun _ => 0

/-- The loop of `store_bitmap`; `block` is the buffer kept between rounds. -/
def storeBitmapFrom
    (bitmap : Bitmap) :
    Nat → Nat → Nat → (Nat → UInt8) → Fs Unit
  | 0, _, _, _ => pure ()
  | remaining + 1, index, offset, block => do
      let copy := min blockSize (maxBitmapBytes - offset)
      let block := blit block 0 (fun byte => bitmap (offset + byte)) copy
      writeRange (blockBytes (bitmapStart + index)) blockSize block
      storeBitmapFrom bitmap remaining (index + 1) (offset + copy) block

def storeBitmap (candidate : FsMeta) (bitmap : Bitmap) : Fs Unit :=
  storeBitmapFrom bitmap candidate.bitmapBlocks 0 0 fun _ => 0

/-- The test of `bit_is_set`. -/
def bitOf (bitmap : Bitmap) (block : Nat) : Bool :=
  bitmap (block / 8) &&& (1 <<< UInt8.ofNat (block % 8)) != 0

/-- Change the byte that holds a block's bit. -/
def updateByte
    (bitmap : Bitmap)
    (block : Nat)
    (change : UInt8 → UInt8) :
    Bitmap :=
  fun index =>
    if index = block / 8 then change (bitmap index) else bitmap index

/-- An index past the array panics. -/
def checkBitmapIndex (block : Nat) : Fs Unit :=
  if block / 8 < maxBitmapBytes then pure () else Prog.hang

def bitIsSet (bitmap : Bitmap) (block : Nat) : Fs Bool := do
  checkBitmapIndex block
  pure (bitOf bitmap block)

def setBit (bitmap : Bitmap) (block : Nat) : Fs Bitmap := do
  checkBitmapIndex block
  pure (updateByte bitmap block (· ||| 1 <<< UInt8.ofNat (block % 8)))

def clearBit (bitmap : Bitmap) (block : Nat) : Fs Bitmap := do
  checkBitmapIndex block
  pure (updateByte bitmap block (· &&& ~~~(1 <<< UInt8.ofNat (block % 8))))

/-- A `for i in 0..count` loop over the bits of a run of blocks. -/
def changeRun
    (change : Bitmap → Nat → Fs Bitmap) :
    Bitmap → Nat → Nat → Fs Bitmap
  | bitmap, _, 0 => pure bitmap
  | bitmap, start, count + 1 => do
      let changed ← change bitmap start
      changeRun change changed (start + 1) count

/-- The loop that clears the bits of an extent. -/
def clearRun : Bitmap → Nat → Nat → Fs Bitmap :=
  changeRun clearBit

/-- The loop that sets the bits of an extent. -/
def setRun : Bitmap → Nat → Nat → Fs Bitmap :=
  changeRun setBit

/-! ## Inode slots -/

def readInode (inodeNo : Nat) : Fs Inode :=
  if inodeNo = 0 ∨ inodeNo > inodeCount then
    Prog.fail .invalid
  else
    Prog.gets fun disk => disk.inode inodeNo

def writeInode (inodeNo : Nat) (inode : Inode) : Fs Unit :=
  Prog.modify fun disk =>
    { disk with inode := Function.update disk.inode inodeNo inode }

def zeroInode (inodeNo : Nat) : Fs Unit :=
  writeInode inodeNo Inode.zero

/-! ## Paths -/

/-- More steps than a walk over distinct inode slots can take. -/
def walkFuel : Nat := inodeCount + 1

/--
The sibling walk of `resolve_with` and `create_entry`: the first inode of the
chain that satisfies `stop`, or `0` at the end of the chain.
-/
def walkSiblings (stop : Inode → Bool) : Nat → Nat → Fs Nat
  | 0, child => if child = 0 then pure 0 else Prog.hang
  | fuel + 1, child =>
      if child = 0 then
        pure 0
      else do
        let entry ← readInode child
        if stop entry then
          pure child
        else
          walkSiblings stop fuel entry.nextSibling

/-- The components `resolve_with` walks: split at `/`, without empty ones and `.`. -/
def components (path : List UInt8) : List (List UInt8) :=
  (path.splitOn slash).filter fun part => !part.isEmpty && part != dot

/-- One round of the loop of `resolve_with`: from a slot to the next one. -/
def resolvePart (part : List UInt8) (current : Nat) : Fs Nat :=
  if part = dotDot then do
    let inode ← readInode current
    pure (if inode.parent ≠ 0 then inode.parent else current)
  else do
    let directory ← readInode current
    if directory.kind ≠ 2 then
      Prog.fail .notDir
    else do
      let found ←
        walkSiblings
          (fun entry => entry.kind != 0 && entry.nameSlice == part)
          walkFuel directory.firstChild
      if found = 0 then
        Prog.fail .notFound
      else
        pure found

/-- The loop of `resolve_with` over the components. -/
def resolveParts : List (List UInt8) → Nat → Fs Nat
  | [], current => pure current
  | part :: rest, current => do
      let next ← resolvePart part current
      resolveParts rest next

def resolveWith (path : List UInt8) (cwd : Nat) : Fs Nat :=
  if path = [] ∨ path = [slash] then
    pure rootInode
  else if path.head? = some slash then
    resolveParts (components path) rootInode
  else
    resolveParts (components path) cwd

/-- The path up to its last `/` and the bytes behind it. -/
def splitParent (path : List UInt8) : List UInt8 × List UInt8 :=
  if slash ∈ path then
    let name := (path.reverse.takeWhile (· ≠ slash)).reverse
    (path.take (path.length - name.length - 1), name)
  else
    ([], path)

/-- The loop of `list`: kind and name of every entry of the chain. -/
def listSiblings : Nat → Nat → Fs (List (Nat × List UInt8))
  | 0, child => if child = 0 then pure [] else Prog.hang
  | fuel + 1, child =>
      if child = 0 then
        pure []
      else do
        let entry ← readInode child
        let rest ← listSiblings fuel entry.nextSibling
        pure
          (if entry.kind ≠ 0 then
            (entry.kind, entry.nameSlice) :: rest
          else
            rest)

/-- `list`, with the entries it prints; `/mnt` shows the mount table instead. -/
def list (path : List UInt8) (cwd : Nat) : Fs (List (Nat × List UInt8)) :=
  if path = [47, 109, 110, 116] ∨ path = [47, 109, 110, 116, 47] then
    pure []
  else do
    let inode ← resolveWith path cwd
    let directory ← readInode inode
    if directory.kind ≠ 2 then
      Prog.fail .notDir
    else
      listSiblings walkFuel directory.firstChild

/-! ## Changing the tree -/

/-- The scan of `create_entry` for a free slot; `0` when there is none. -/
def firstFree : List Nat → Fs Nat
  | [] => pure 0
  | slot :: rest => do
      let inode ← readInode slot
      if inode.kind = 0 then
        pure slot
      else
        firstFree rest

/-- The slots `1..=INODE_COUNT`. -/
def inodeSlots : List Nat :=
  List.range' 1 inodeCount

/-- The first 56 bytes of a name in a zeroed `[u8; 56]`. -/
def storedName (name : List UInt8) : List UInt8 :=
  name.take 56 ++ List.replicate (56 - name.length) 0

/-- The record of a new entry at the head of its directory's chain. -/
def newEntry
    (kind mode uid gid parentIno firstChild : Nat)
    (name : List UInt8) :
    Inode where
  kind := kind
  mode := mode
  uid := uid
  gid := gid
  parent := parentIno
  firstChild := 0
  nextSibling := firstChild
  size := 0
  startBlock := 0
  blockCount := 0
  generation := 0
  name := storedName name

/-- The directory in which `create_entry` looks for a name. -/
def parentInode (parentPath : List UInt8) (cwd : Nat) : Fs Nat :=
  if parentPath = [] then pure cwd else resolveWith parentPath cwd

def createEntry
    (path : List UInt8)
    (cwd kind mode uid gid : Nat) :
    Fs Nat := do
  let (parentPath, name) := splitParent path
  let parentIno ← parentInode parentPath cwd
  let parent ← readInode parentIno
  if parent.kind ≠ 2 then
    Prog.fail .notDir
  else do
    let duplicate ←
      walkSiblings (fun entry => entry.nameSlice == name)
        walkFuel parent.firstChild
    if duplicate ≠ 0 then
      Prog.fail .exists
    else do
      let ino ← firstFree inodeSlots
      if ino = 0 then
        Prog.fail .noSpace
      else do
        writeInode ino
          (newEntry kind mode uid gid parentIno parent.firstChild name)
        writeInode parentIno { parent with firstChild := ino }
        pure ino

/-- The loop of `unlink_child`; `parent` is the copy read before the loop. -/
def unlinkFrom
    (parentIno childIno : Nat)
    (parent : Inode) :
    Nat → Nat → Nat → Fs Unit
  | 0, current, _ =>
      if current = 0 then Prog.fail .notFound else Prog.hang
  | fuel + 1, current, previous =>
      if current = 0 then
        Prog.fail .notFound
      else if current = childIno then do
        let child ← readInode current
        if previous = 0 then
          writeInode parentIno
            { parent with firstChild := child.nextSibling }
        else do
          let before ← readInode previous
          writeInode previous
            { before with nextSibling := child.nextSibling }
          writeInode parentIno parent
      else do
        let entry ← readInode current
        unlinkFrom parentIno childIno parent fuel
          entry.nextSibling current

def unlinkChild (parentIno childIno : Nat) : Fs Unit := do
  let parent ← readInode parentIno
  unlinkFrom parentIno childIno parent walkFuel parent.firstChild 0

/-! ## File contents -/

/-- The blocks a write needs; the cast to `u32` keeps the low 32 bits. -/
def neededBlocks (data : List UInt8) : Nat :=
  (data.length + blockSize - 1) / blockSize % 2 ^ 32

/--
The first-fit search of `write_file_with`: the start of the run being counted
and its length, which is the wanted length when a run was found.
-/
def findRun
    (bitmap : Bitmap)
    (needed : Nat) :
    List Nat → Nat → Nat → Fs (Nat × Nat)
  | [], start, found => pure (start, found)
  | block :: rest, start, found => do
      let used ← bitIsSet bitmap block
      if used then
        findRun bitmap needed rest start 0
      else
        let start := if found = 0 then block else start
        if found + 1 = needed then
          pure (start, found + 1)
        else
          findRun bitmap needed rest start (found + 1)

/-- The loop that writes the data, block by block, the last one zero-filled. -/
def writeBlocks : Nat → Nat → List UInt8 → Fs Unit
  | 0, _, _ => pure ()
  | remaining + 1, block, data => do
      writeRange (blockBytes block) blockSize
        fun index => (data.take blockSize).getD index 0
      writeBlocks remaining (block + 1) (data.drop blockSize)

/-- Return the blocks of an extent to the bitmap on the disk. -/
def freeExtent (candidate : FsMeta) (start count : Nat) : Fs Unit := do
  let bitmap ← loadBitmap candidate
  let cleared ← clearRun bitmap start count
  storeBitmap candidate cleared

/-- The step of `write_file_with` that gives the old blocks back. -/
def releaseBlocks (candidate : FsMeta) (inode : Inode) : Fs Unit :=
  if inode.blockCount ≠ 0 then
    freeExtent candidate inode.startBlock inode.blockCount
  else
    pure ()

/-- The step of `remove` that gives the blocks of a file back. -/
def releaseFile (candidate : FsMeta) (inode : Inode) : Fs Unit :=
  if inode.kind = 1 then releaseBlocks candidate inode else pure ()

/-- The part of `write_file_with` behind the size check and the freeing. -/
def placeData
    (candidate : FsMeta)
    (ino : Nat)
    (inode : Inode)
    (data : List UInt8) :
    Fs Unit := do
  let needed := neededBlocks data
  if 0 < needed then do
    let bitmap ← loadBitmap candidate
    let (start, found) ←
      findRun bitmap needed
        (List.range' candidate.dataStart candidate.dataBlocks) 0 0
    if found ≠ needed then
      Prog.fail .noSpace
    else do
      let marked ← setRun bitmap start needed
      storeBitmap candidate marked
      writeBlocks needed start data
      writeInode ino
        { inode with
          startBlock := start
          blockCount := needed
          size := data.length }
  else
    writeInode ino
      { inode with
        startBlock := 0
        blockCount := 0
        size := data.length }

/-- The part of `write_file_with` behind finding or creating the file. -/
def rewriteFile
    (candidate : FsMeta)
    (ino : Nat)
    (data : List UInt8) :
    Fs Unit := do
  let inode ← readInode ino
  if inode.kind ≠ 1 then
    Prog.fail .isDir
  else if neededBlocks data > maxFileBlocks then
    Prog.fail .tooLarge
  else do
    releaseBlocks candidate inode
    placeData candidate ino inode data

/-- Resolve a path and create a regular file when nothing is found there. -/
def resolveOrCreate
    (path : List UInt8)
    (cwd uid gid : Nat) :
    Fs Nat :=
  fun disk =>
    match resolveWith path cwd disk with
    | .err .notFound middle => createEntry path cwd 1 0o644 uid gid middle
    | outcome => outcome

def writeFile
    (candidate : FsMeta)
    (path : List UInt8)
    (cwd : Nat)
    (data : List UInt8)
    (uid gid : Nat) :
    Fs Unit := do
  let ino ← resolveOrCreate path cwd uid gid
  rewriteFile candidate ino data

/-! ## The public calls -/

def makeDir (path : List UInt8) (cwd uid gid : Nat) : Fs Unit := do
  let _ ← createEntry path cwd 2 0o755 uid gid
  pure ()

def touch (path : List UInt8) (cwd uid gid : Nat) : Fs Unit := do
  let _ ← resolveOrCreate path cwd uid gid
  pure ()

def remove (candidate : FsMeta) (path : List UInt8) (cwd : Nat) : Fs Unit := do
  let ino ← resolveWith path cwd
  if ino = rootInode then
    Prog.fail .permission
  else do
    let inode ← readInode ino
    let _parent ← readInode inode.parent
    if inode.kind = 2 ∧ inode.firstChild ≠ 0 then
      Prog.fail .notEmpty
    else do
      unlinkChild inode.parent ino
      releaseFile candidate inode
      zeroInode ino

def resolve (path : List UInt8) (cwd : Nat) : Fs Nat :=
  resolveWith path cwd

/-- One of the calls that change the file system. -/
inductive Call where
  | makeDir (path : List UInt8) (cwd uid gid : Nat)
  | touch (path : List UInt8) (cwd uid gid : Nat)
  | writeFile
      (path : List UInt8)
      (cwd : Nat)
      (data : List UInt8)
      (uid gid : Nat)
  | remove (path : List UInt8) (cwd uid gid : Nat)
  deriving DecidableEq

/-- Perform a call; `remove` ignores the caller's ids. -/
def Call.run (candidate : FsMeta) : Call → Fs Unit
  | .makeDir path cwd uid gid => Vfs.makeDir path cwd uid gid
  | .touch path cwd uid gid => Vfs.touch path cwd uid gid
  | .writeFile path cwd data uid gid =>
      Vfs.writeFile candidate path cwd data uid gid
  | .remove path cwd _ _ => Vfs.remove candidate path cwd

/-! ## Formatting -/

/-- The four bytes of `u32::to_le_bytes`. -/
def le32 (value : Nat) : List UInt8 :=
  [UInt8.ofNat value, UInt8.ofNat (value / 2 ^ 8),
    UInt8.ofNat (value / 2 ^ 16), UInt8.ofNat (value / 2 ^ 24)]

/-- The root directory that `format` writes. -/
def rootRecord : Inode :=
  { Inode.zero with
    kind := 2
    mode := 0o755
    name := slash :: List.replicate 55 0 }

/-- The loop that reserves the blocks before the data area. -/
def reserveBlocks : Bitmap → List Nat → Fs Bitmap
  | bitmap, [] => pure bitmap
  | bitmap, block :: rest =>
      if block < maxBitmapBytes * 8 then do
        let marked ← setBit bitmap block
        reserveBlocks marked rest
      else
        reserveBlocks bitmap rest

/-- The block of inode slots with the root in its first slot, zeros behind. -/
def writeRootBlock : Fs Unit :=
  Prog.modify fun disk =>
    { disk with
      inode := fun slot =>
        if slot = rootInode then
          rootRecord
        else if rootInode < slot ∧ slot ≤ inodesPerBlock then
          Inode.zero
        else
          disk.inode slot }

def format (candidate : FsMeta) : Fs FsMeta := do
  let superBlock :=
    fsMagic ++ le32 candidate.totalBlocks ++ le32 candidate.bitmapBlocks
  writeRange (blockBytes 0) blockSize fun index => superBlock.getD index 0
  let bitmap ←
    reserveBlocks (fun _ => 0)
      (List.range (bitmapStart + candidate.bitmapBlocks))
  storeBitmap candidate bitmap
  writeRootBlock
  pure candidate

/-- A disk of zero bytes: every slot reads as the zero record. -/
def Disk.blank : Disk where
  inode := fun _ => Inode.zero
  bytes := fun _ => 0

/--
The states of a run: what `format` leaves on a blank disk, and what an allowed
call leaves in such a state, whether it succeeds or fails.
-/
inductive ReachableBy
    (candidate : FsMeta)
    (allowed : Disk → Call → Prop) :
    Disk → Prop where
  | formatted
      {disk : Disk} :
      format candidate Disk.blank = .ok candidate disk →
      ReachableBy candidate allowed disk
  | returned
      {before after : Disk}
      (call : Call) :
      ReachableBy candidate allowed before →
      allowed before call →
      call.run candidate before = .ok () after →
      ReachableBy candidate allowed after
  | failed
      {before after : Disk}
      {error : FsError}
      (call : Call) :
      ReachableBy candidate allowed before →
      allowed before call →
      call.run candidate before = .err error after →
      ReachableBy candidate allowed after

/-- The states of a run of arbitrary calls. -/
abbrev Reachable (candidate : FsMeta) : Disk → Prop :=
  ReachableBy candidate fun _ _ => True

end VibuxOS.Storage.Vfs
