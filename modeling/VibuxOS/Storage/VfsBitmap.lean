import VibuxOS.Lib.Bits
import VibuxOS.Lib.FirstFit
import VibuxOS.Storage.VfsCalls

namespace VibuxOS.Storage.Vfs

open VibuxOS.Lib

/-!
# The block bitmap on the disk

For a geometry whose bitmap fits in memory, the programs on the bitmap do not
panic, and what they do to the bits on the disk can be said block by block.
-/

variable
  {candidate : FsMeta} {disk final : Disk}
  (bitmap : Bitmap)

/-- The blocks that the bitmap on the disk has a bit for. -/
def FsMeta.capacity (candidate : FsMeta) : Nat :=
  8 * blockSize * candidate.bitmapBlocks

/-- The geometries that `attach` accepts. -/
structure Geometry (candidate : FsMeta) : Prop where
  dataBelow : candidate.dataStart < candidate.totalBlocks
  covered : candidate.totalBlocks ≤ candidate.capacity
  fits : candidate.capacity ≤ 8 * maxBitmapBytes

/-- Where the bitmap starts on the disk. -/
def bitmapBytes : Nat :=
  blockBytes bitmapStart

def Disk.bit (disk : Disk) (block : Nat) : Bool :=
  bitOf (fun index => disk.bytes (bitmapBytes + index)) block

theorem blockBytes_le
    {block other : Nat}
    (ordered : block ≤ other) :
    blockBytes block ≤ blockBytes other :=
  Nat.add_le_add_left (Nat.mul_le_mul_right _ ordered) _

theorem blockBytes_bitmap
    (index : Nat) :
    blockBytes (bitmapStart + index) =
      bitmapBytes + blockSize * index := by
  simp only [bitmapBytes, blockBytes, Nat.add_mul,
    Nat.mul_comm blockSize, Nat.add_assoc]

/--
A window of blocks is its first block and the rest: copying the first one and
then the rest copies the window.
-/
theorem window_succ
    {α : Type}
    (source target : Nat → α)
    (base size index remaining address : Nat) :
    (if base + size * (index + 1) ≤ address ∧
        address < base + size * (index + 1 + remaining) then
      source address
    else if base + size * index ≤ address ∧
        address < base + size * index + size then
      source address
    else
      target address) =
    if base + size * index ≤ address ∧
        address < base + size * (index + (remaining + 1)) then
      source address
    else
      target address := by
  have ordered : size * (index + 1) ≤ size * (index + (remaining + 1)) :=
    Nat.mul_le_mul_left _ (by omega)
  have next : size * (index + 1) = size * index + size :=
    Nat.mul_succ _ _
  rw [Nat.add_right_comm index 1 remaining, Nat.add_assoc index]
  by_cases inRest :
      base + size * (index + 1) ≤ address ∧
        address < base + size * (index + (remaining + 1))
  · rw [if_pos inRest, if_pos (by omega)]
  · by_cases inFirst :
        base + size * index ≤ address ∧
          address < base + size * index + size
    · rw [if_neg inRest, if_pos inFirst, if_pos (by omega)]
    · rw [if_neg inRest, if_neg inFirst, if_neg (by omega)]

/-! ## Loading and storing -/

theorem loadBitmapFrom_spec
    (remaining index : Nat)
    (bitmap : Bitmap)
    (fits : blockSize * (index + remaining) ≤ maxBitmapBytes) :
    ∃ loaded,
      loadBitmapFrom remaining index (blockSize * index) bitmap disk =
          .ok loaded disk ∧
        ∀ byte,
          loaded byte =
            if blockSize * index ≤ byte ∧
                byte < blockSize * (index + remaining) then
              disk.bytes (bitmapBytes + byte)
            else
              bitmap byte := by
  induction remaining generalizing index bitmap with
  | zero =>
      refine ⟨bitmap, rfl, ?_⟩
      intro byte
      rw [if_neg (by simp only [Nat.add_zero]; omega)]
  | succ remaining inductionHypothesis =>
      have copy :
          min blockSize (maxBitmapBytes - blockSize * index) =
            blockSize := by
        simp only [blockSize, maxBitmapBytes] at fits ⊢
        omega
      obtain ⟨loaded, returned, bytes⟩ :=
        inductionHypothesis (index + 1)
          (blit bitmap (blockSize * index)
            (fun byte =>
              disk.bytes (blockBytes (bitmapStart + index) + byte))
            blockSize)
          (by rwa [Nat.add_right_comm])
      refine ⟨loaded, ?_, ?_⟩
      · simp only [loadBitmapFrom, readRange, Prog.gets_bind_apply, copy]
        exact returned
      · intro byte
        rw [bytes byte]
        have window :=
          window_succ (fun byte => disk.bytes (bitmapBytes + byte))
            bitmap 0 blockSize index remaining byte
        simp only [Nat.zero_add] at window
        rw [← window]
        congr 1
        unfold blit
        split
        case isTrue inside =>
          simp only [blockBytes_bitmap, Nat.add_assoc,
            Nat.add_sub_cancel' inside.1]
        case isFalse =>
          rfl

theorem loadBitmap_spec
    (geometry : Geometry candidate) :
    ∃ loaded,
      loadBitmap candidate disk = .ok loaded disk ∧
        ∀ block,
          block < candidate.capacity →
          bitOf loaded block = disk.bit block := by
  have fits : blockSize * (0 + candidate.bitmapBlocks) ≤ maxBitmapBytes := by
    have fits := geometry.fits
    simp only [FsMeta.capacity, blockSize, maxBitmapBytes] at fits ⊢
    omega
  obtain ⟨loaded, returned, bytes⟩ :=
    @loadBitmapFrom_spec disk candidate.bitmapBlocks 0 (fun _ => 0) fits
  refine ⟨loaded, returned, ?_⟩
  intro block inside
  have inWindow :
      blockSize * 0 ≤ block / 8 ∧
        block / 8 < blockSize * (0 + candidate.bitmapBlocks) := by
    simp only [FsMeta.capacity, blockSize] at inside ⊢
    omega
  simp only [Disk.bit, bitOf, bytes, if_pos inWindow]

theorem storeBitmapFrom_succ
    (remaining index offset : Nat)
    (block : Nat → UInt8) :
    storeBitmapFrom bitmap (remaining + 1) index offset block disk =
      let copy := min blockSize (maxBitmapBytes - offset)
      let filled := blit block 0 (fun byte => bitmap (offset + byte)) copy
      storeBitmapFrom bitmap remaining (index + 1) (offset + copy) filled
        { disk with
          bytes :=
            blit disk.bytes (blockBytes (bitmapStart + index)) filled
              blockSize } :=
  rfl

theorem storeBitmapFrom_spec
    (remaining index : Nat)
    (block : Nat → UInt8)
    (fits : blockSize * (index + remaining) ≤ maxBitmapBytes) :
    ∃ bytes,
      storeBitmapFrom bitmap remaining index (blockSize * index) block
            disk =
          .ok () { disk with bytes := bytes } ∧
        ∀ address,
          bytes address =
            if bitmapBytes + blockSize * index ≤ address ∧
                address <
                  bitmapBytes + blockSize * (index + remaining) then
              bitmap (address - bitmapBytes)
            else
              disk.bytes address := by
  induction remaining generalizing index block disk with
  | zero =>
      refine ⟨disk.bytes, rfl, ?_⟩
      intro address
      rw [if_neg (by simp only [Nat.add_zero]; omega)]
  | succ remaining inductionHypothesis =>
      have copy :
          min blockSize (maxBitmapBytes - blockSize * index) =
            blockSize := by
        simp only [blockSize, maxBitmapBytes] at fits ⊢
        omega
      obtain ⟨bytes, returned, written⟩ :=
        @inductionHypothesis
          { disk with
            bytes :=
              blit disk.bytes (blockBytes (bitmapStart + index))
                (blit block 0
                  (fun byte => bitmap (blockSize * index + byte))
                  blockSize)
                blockSize }
          (index + 1)
          (blit block 0
            (fun byte => bitmap (blockSize * index + byte)) blockSize)
          (by rwa [Nat.add_right_comm])
      refine ⟨bytes, ?_, ?_⟩
      · simp only [storeBitmapFrom_succ, copy]
        exact returned
      · intro address
        rw [written address,
          ← window_succ (fun address => bitmap (address - bitmapBytes))
            disk.bytes bitmapBytes blockSize index remaining address]
        congr 1
        simp only [blockBytes_bitmap, blit]
        split
        case isTrue inside =>
          rw [if_pos (by omega)]
          congr 1
          omega
        case isFalse =>
          rfl

theorem storeBitmap_spec
    (geometry : Geometry candidate)
    (bitmap : Bitmap) :
    ∃ bytes,
      storeBitmap candidate bitmap disk =
          .ok () { disk with bytes := bytes } ∧
        ∀ block,
          block < candidate.capacity →
          Disk.bit { disk with bytes := bytes } block =
            bitOf bitmap block := by
  have fits : blockSize * (0 + candidate.bitmapBlocks) ≤ maxBitmapBytes := by
    have fits := geometry.fits
    simp only [FsMeta.capacity, blockSize, maxBitmapBytes] at fits ⊢
    omega
  obtain ⟨bytes, returned, written⟩ :=
    @storeBitmapFrom_spec disk bitmap candidate.bitmapBlocks 0
      (fun _ => 0) fits
  refine ⟨bytes, returned, ?_⟩
  intro block inside
  have inWindow :
      bitmapBytes + blockSize * 0 ≤ bitmapBytes + block / 8 ∧
        bitmapBytes + block / 8 <
          bitmapBytes + blockSize * (0 + candidate.bitmapBlocks) := by
    simp only [FsMeta.capacity, blockSize] at inside ⊢
    omega
  simp only [Disk.bit, bitOf, written, if_pos inWindow,
    Nat.add_sub_cancel_left]

/-! ## Single bits -/

theorem checkBitmapIndex_of_lt
    {block : Nat}
    (inside : block < 8 * maxBitmapBytes) :
    checkBitmapIndex block disk = .ok () disk := by
  unfold checkBitmapIndex
  rw [if_pos (by omega)]
  rfl

theorem sameBit_iff
    {block other : Nat}
    (sameByte : other / 8 = block / 8) :
    block % 8 = other % 8 ↔ other = block := by
  omega

theorem bitOf_set
    (block other : Nat) :
    bitOf
        (updateByte bitmap block
          (· ||| 1 <<< UInt8.ofNat (block % 8)))
        other =
      (bitOf bitmap other || decide (other = block)) := by
  unfold bitOf updateByte
  by_cases sameByte : other / 8 = block / 8
  · simp only [sameByte, if_true]
    rw [test_or_mask _ (Nat.mod_lt _ (by decide))
      (Nat.mod_lt _ (by decide))]
    simp only [sameBit_iff sameByte]
  · have different : other ≠ block := by
      intro same
      exact sameByte (by rw [same])
    simp [sameByte, different]

theorem bitOf_clear
    (block other : Nat) :
    bitOf
        (updateByte bitmap block
          (· &&& ~~~(1 <<< UInt8.ofNat (block % 8))))
        other =
      (bitOf bitmap other && !decide (other = block)) := by
  unfold bitOf updateByte
  by_cases sameByte : other / 8 = block / 8
  · simp only [sameByte, if_true]
    rw [test_and_not_mask _ (Nat.mod_lt _ (by decide))
      (Nat.mod_lt _ (by decide))]
    simp only [sameBit_iff sameByte]
  · have different : other ≠ block := by
      intro same
      exact sameByte (by rw [same])
    simp [sameByte, different]

def InRun (start count block : Nat) : Prop :=
  start ≤ block ∧ block < start + count

instance (start count block : Nat) : Decidable (InRun start count block) :=
  inferInstanceAs (Decidable (_ ∧ _))

theorem not_inRun_zero
    (start block : Nat) :
    ¬ InRun start 0 block := by
  unfold InRun
  omega

theorem inRun_succ
    (start count block : Nat) :
    InRun start (count + 1) block ↔
      block = start ∨ InRun (start + 1) count block := by
  unfold InRun
  omega

theorem setRun_spec
    (start count : Nat)
    (inside : start + count ≤ 8 * maxBitmapBytes) :
    ∃ marked,
      setRun bitmap start count disk = .ok marked disk ∧
        ∀ block,
          bitOf marked block =
            (bitOf bitmap block || decide (InRun start count block)) := by
  induction count generalizing bitmap start with
  | zero =>
      refine ⟨bitmap, rfl, ?_⟩
      simp [not_inRun_zero]
  | succ count inductionHypothesis =>
      obtain ⟨marked, returned, bits⟩ :=
        inductionHypothesis
          (updateByte bitmap start
            (· ||| 1 <<< UInt8.ofNat (start % 8)))
          (start + 1) (by omega)
      refine ⟨marked, ?_, ?_⟩
      · simp only [setRun, changeRun, setBit, Prog.bind_assoc_apply]
        rw [Prog.bind_of_ok (checkBitmapIndex_of_lt (by omega))]
        exact returned
      · intro block
        rw [bits, bitOf_set, Bool.or_assoc, ← Bool.decide_or]
        simp only [inRun_succ]

theorem clearRun_spec
    (start count : Nat)
    (inside : start + count ≤ 8 * maxBitmapBytes) :
    ∃ cleared,
      clearRun bitmap start count disk = .ok cleared disk ∧
        ∀ block,
          bitOf cleared block =
            (bitOf bitmap block &&
              !decide (InRun start count block)) := by
  induction count generalizing bitmap start with
  | zero =>
      refine ⟨bitmap, rfl, ?_⟩
      simp [not_inRun_zero]
  | succ count inductionHypothesis =>
      obtain ⟨cleared, returned, bits⟩ :=
        inductionHypothesis
          (updateByte bitmap start
            (· &&& ~~~(1 <<< UInt8.ofNat (start % 8))))
          (start + 1) (by omega)
      refine ⟨cleared, ?_, ?_⟩
      · simp only [clearRun, changeRun, clearBit, Prog.bind_assoc_apply]
        rw [Prog.bind_of_ok (checkBitmapIndex_of_lt (by omega))]
        exact returned
      · intro block
        rw [bits, bitOf_clear, Bool.and_assoc, ← Bool.not_or,
          ← Bool.decide_or]
        simp only [inRun_succ]

/-! ## Freeing and allocating -/

theorem freeExtent_spec
    (geometry : Geometry candidate)
    {start count : Nat}
    (inside : start + count ≤ candidate.capacity) :
    ∃ bytes,
      freeExtent candidate start count disk =
          .ok () { disk with bytes := bytes } ∧
        ∀ block,
          block < candidate.capacity →
          Disk.bit { disk with bytes := bytes } block =
            (disk.bit block && !decide (InRun start count block)) := by
  obtain ⟨loaded, load, loadedBits⟩ := @loadBitmap_spec _ disk geometry
  have fits := geometry.fits
  obtain ⟨cleared, clear, clearedBits⟩ :=
    @clearRun_spec disk loaded start count (by omega)
  obtain ⟨bytes, store, storedBits⟩ :=
    @storeBitmap_spec _ disk geometry cleared
  refine ⟨bytes, ?_, ?_⟩
  · unfold freeExtent
    rw [Prog.bind_of_ok load, Prog.bind_of_ok clear, store]
  · intro block inCapacity
    rw [storedBits block inCapacity, clearedBits,
      loadedBits block inCapacity]

theorem findRun_eq
    (needed cell count start found : Nat)
    (inside : cell + count ≤ 8 * maxBitmapBytes) :
    findRun bitmap needed (List.range' cell count) start found disk =
      .ok (firstFit (bitOf bitmap) needed count cell start found)
        disk := by
  induction count generalizing cell start found with
  | zero =>
      rfl
  | succ count inductionHypothesis =>
      have tested :
          bitIsSet bitmap cell disk = .ok (bitOf bitmap cell) disk := by
        unfold bitIsSet
        rw [Prog.bind_of_ok (checkBitmapIndex_of_lt (by omega))]
        rfl
      simp only [List.range'_succ, findRun]
      rw [Prog.bind_of_ok tested]
      simp only [firstFit]
      split
      · exact inductionHypothesis (cell + 1) start 0 (by omega)
      · split
        · rfl
        · exact inductionHypothesis (cell + 1) _ _ (by omega)

theorem writeBlocks_succ
    (remaining block : Nat)
    (data : List UInt8) :
    writeBlocks (remaining + 1) block data disk =
      writeBlocks remaining (block + 1) (data.drop blockSize)
        { disk with
          bytes :=
            blit disk.bytes (blockBytes block)
              (fun index => (data.take blockSize).getD index 0)
              blockSize } :=
  rfl

theorem writeBlocks_spec
    (remaining block : Nat)
    (data : List UInt8) :
    ∃ bytes,
      writeBlocks remaining block data disk =
          .ok () { disk with bytes := bytes } ∧
        ∀ address,
          address < blockBytes block →
          bytes address = disk.bytes address := by
  induction remaining generalizing block data disk with
  | zero =>
      exact ⟨disk.bytes, rfl, fun _ _ => rfl⟩
  | succ remaining inductionHypothesis =>
      obtain ⟨bytes, returned, below⟩ :=
        @inductionHypothesis
          { disk with
            bytes :=
              blit disk.bytes (blockBytes block)
                (fun index => (data.take blockSize).getD index 0)
                blockSize }
          (block + 1) (data.drop blockSize)
      refine ⟨bytes, ?_, ?_⟩
      · rw [writeBlocks_succ]
        exact returned
      · intro address isBelow
        have belowNext : address < blockBytes (block + 1) :=
          Nat.lt_of_lt_of_le isBelow (blockBytes_le (Nat.le_succ _))
        have untouched :=
          @blit_outside _ disk.bytes
            (fun index => (data.take blockSize).getD index 0)
            (blockBytes block) blockSize address (Or.inl isBelow)
        exact (below address belowNext).trans untouched

theorem Geometry.inCapacity
    (geometry : Geometry candidate)
    {start count : Nat}
    (inside : start + count ≤ candidate.totalBlocks) :
    start + count ≤ candidate.capacity :=
  le_trans inside geometry.covered

/-- No free run of data blocks is long enough. -/
def NoRoom (candidate : FsMeta) (used : Nat → Bool) (count : Nat) : Prop :=
  ∀ start,
    candidate.dataStart ≤ start →
    start + count ≤ candidate.totalBlocks →
    ¬ FreeRun used start count

/-- A run of blocks that was free and has been given to a file. -/
structure Allocated
    (candidate : FsMeta)
    (disk final : Disk)
    (start count : Nat) : Prop where
  lower : candidate.dataStart ≤ start
  upper : start + count ≤ candidate.totalBlocks
  free : FreeRun disk.bit start count
  bits :
    ∀ block,
      block < candidate.capacity →
      final.bit block =
        (disk.bit block || decide (InRun start count block))

theorem bitmapBytes_le
    {start : Nat}
    (lower : candidate.dataStart ≤ start) :
    bitmapBytes + blockSize * candidate.bitmapBlocks ≤
      blockBytes start := by
  simp only [FsMeta.dataStart] at lower
  simp only [bitmapBytes, blockBytes]
  have scaled := Nat.mul_le_mul_right blockSize lower
  rw [Nat.add_mul, Nat.mul_comm candidate.bitmapBlocks] at scaled
  omega

theorem bit_congr
    {block : Nat}
    (inside : block < candidate.capacity)
    (same :
      ∀ address,
        address < bitmapBytes + blockSize * candidate.bitmapBlocks →
        final.bytes address = disk.bytes address) :
    final.bit block = disk.bit block := by
  have inWindow :
      bitmapBytes + block / 8 <
        bitmapBytes + blockSize * candidate.bitmapBlocks := by
    simp only [FsMeta.capacity, blockSize] at inside ⊢
    omega
  simp only [Disk.bit, bitOf, same _ inWindow]

/-- Placing data in a file allocates a free run, or fails because there is none. -/
theorem placeData_spec
    (geometry : Geometry candidate)
    (ino : Nat)
    (inode : Inode)
    {data : List UInt8}
    (positive : 0 < neededBlocks data) :
    (∃ start final,
        placeData candidate ino inode data disk = .ok () final ∧
          Allocated candidate disk final start (neededBlocks data) ∧
          final.inode =
            Function.update disk.inode ino
              (inode.rewritten start (neededBlocks data)
                data.length)) ∨
      (placeData candidate ino inode data disk = .err .noSpace disk ∧
        NoRoom candidate disk.bit (neededBlocks data)) := by
  obtain ⟨loaded, load, loadedBits⟩ := @loadBitmap_spec _ disk geometry
  have covered := geometry.covered
  have fits := geometry.fits
  have area :
      candidate.dataStart + candidate.dataBlocks =
        candidate.totalBlocks := by
    have below := geometry.dataBelow
    unfold FsMeta.dataBlocks
    omega
  have find :=
    @findRun_eq disk loaded (neededBlocks data) candidate.dataStart
      candidate.dataBlocks 0 0 (by omega)
  have freeIff :
      ∀ {start},
        start + neededBlocks data ≤ candidate.totalBlocks →
        (FreeRun (bitOf loaded) start (neededBlocks data) ↔
          FreeRun disk.bit start (neededBlocks data)) := by
    intro start inside
    unfold FreeRun
    refine forall_congr' (fun block => forall_congr' (fun lower =>
      forall_congr' (fun upper => ?_)))
    rw [loadedBits block (by omega)]
  have searched :=
    firstFit_spec (bitOf loaded) candidate.dataStart
      candidate.dataBlocks positive
  simp only [area] at searched
  unfold placeData
  simp only [positive, if_true]
  rw [Prog.bind_of_ok load, Prog.bind_of_ok find]
  generalize firstFit (bitOf loaded) (neededBlocks data)
    candidate.dataBlocks candidate.dataStart 0 0 = result at searched ⊢
  obtain ⟨start, found⟩ := result
  rcases searched with ⟨complete, lower, upper, free⟩ | ⟨incomplete, none⟩
  · left
    simp only at complete lower upper free ⊢
    obtain ⟨marked, mark, markedBits⟩ :=
      @setRun_spec disk loaded start (neededBlocks data) (by omega)
    obtain ⟨stored, store, storedBits⟩ :=
      @storeBitmap_spec _ disk geometry marked
    obtain ⟨bytes, write, below⟩ :=
      @writeBlocks_spec { disk with bytes := stored }
        (neededBlocks data) start data
    refine ⟨start,
      { inode :=
          Function.update disk.inode ino
            (inode.rewritten start (neededBlocks data) data.length)
        bytes := bytes }, ?_, ?_, rfl⟩
    · rw [if_neg (not_not.mpr complete), Prog.bind_of_ok mark,
        Prog.bind_of_ok store, Prog.bind_of_ok write]
      rfl
    · refine ⟨lower, upper, (freeIff upper).mp free, ?_⟩
      intro block inCapacity
      have kept :
          Disk.bit { disk with bytes := bytes } block =
            Disk.bit { disk with bytes := stored } block := by
        refine bit_congr inCapacity ?_
        intro address inBitmap
        have behind := @bitmapBytes_le candidate start lower
        exact below address (by omega)
      change Disk.bit { disk with bytes := bytes } block = _
      rw [kept, storedBits block inCapacity, markedBits,
        loadedBits block inCapacity]
  · right
    simp only at incomplete none ⊢
    rw [if_pos incomplete]
    refine ⟨rfl, ?_⟩
    intro other lower upper free
    exact none other lower upper ((freeIff upper).mpr free)

theorem placeData_zero
    (ino : Nat)
    (inode : Inode)
    {data : List UInt8}
    (nothing : neededBlocks data = 0) :
    placeData candidate ino inode data disk =
      .ok ()
        { disk with
          inode :=
            Function.update disk.inode ino
              (inode.rewritten 0 0 data.length) } := by
  unfold placeData
  simp only [nothing, lt_irrefl, if_false]
  rfl

theorem releaseBlocks_spec
    (geometry : Geometry candidate)
    {inode : Inode}
    (inside :
      inode.blockCount ≠ 0 →
      inode.startBlock + inode.blockCount ≤ candidate.totalBlocks) :
    ∃ bytes,
      releaseBlocks candidate inode disk =
          .ok () { disk with bytes := bytes } ∧
        ∀ block,
          block < candidate.capacity →
          Disk.bit { disk with bytes := bytes } block =
            (disk.bit block &&
              !decide
                (InRun inode.startBlock inode.blockCount block)) := by
  unfold releaseBlocks
  split
  case isTrue hasBlocks =>
    exact freeExtent_spec geometry
      (geometry.inCapacity (inside hasBlocks))
  case isFalse noBlocks =>
    refine ⟨disk.bytes, rfl, ?_⟩
    intro block _
    rw [not_not.mp noBlocks]
    simp [not_inRun_zero]

/-! ## Formatting -/

theorem reserveBlocks_spec
    (blocks : List Nat) :
    ∃ marked,
      reserveBlocks bitmap blocks disk = .ok marked disk ∧
        ∀ block,
          bitOf marked block =
            (bitOf bitmap block ||
              decide (block ∈ blocks ∧ block < maxBitmapBytes * 8)) := by
  induction blocks generalizing bitmap with
  | nil =>
      refine ⟨bitmap, rfl, ?_⟩
      simp
  | cons first rest inductionHypothesis =>
      by_cases hasBit : first < maxBitmapBytes * 8
      · obtain ⟨marked, returned, bits⟩ :=
          inductionHypothesis
            (updateByte bitmap first
              (· ||| 1 <<< UInt8.ofNat (first % 8)))
        refine ⟨marked, ?_, ?_⟩
        · simp only [reserveBlocks, hasBit, if_true, setBit,
            Prog.bind_assoc_apply]
          rw [Prog.bind_of_ok (checkBitmapIndex_of_lt (by omega))]
          exact returned
        · intro block
          rw [bits, bitOf_set, Bool.or_assoc, ← Bool.decide_or]
          congr 2
          simp only [List.mem_cons, eq_iff_iff]
          constructor
          · rintro (rfl | ⟨inRest, upper⟩)
            · exact ⟨Or.inl rfl, hasBit⟩
            · exact ⟨Or.inr inRest, upper⟩
          · rintro ⟨rfl | inRest, upper⟩
            · exact Or.inl rfl
            · exact Or.inr ⟨inRest, upper⟩
      · obtain ⟨marked, returned, bits⟩ := inductionHypothesis bitmap
        refine ⟨marked, ?_, ?_⟩
        · simpa only [reserveBlocks, hasBit, if_false] using returned
        · intro block
          rw [bits]
          congr 2
          simp only [List.mem_cons, eq_iff_iff]
          constructor
          · rintro ⟨inRest, upper⟩
            exact ⟨Or.inr inRest, upper⟩
          · rintro ⟨rfl | inRest, upper⟩
            · exact (hasBit upper).elim
            · exact ⟨inRest, upper⟩

theorem storeBitmap_before
    (geometry : Geometry candidate)
    {bitmap : Bitmap}
    (stored : storeBitmap candidate bitmap disk = .ok () final)
    {address : Nat}
    (before : address < bitmapBytes) :
    final.bytes address = disk.bytes address := by
  have fits : blockSize * (0 + candidate.bitmapBlocks) ≤ maxBitmapBytes := by
    have fits := geometry.fits
    simp only [FsMeta.capacity, blockSize, maxBitmapBytes] at fits ⊢
    omega
  obtain ⟨bytes, returned, written⟩ :=
    @storeBitmapFrom_spec disk bitmap candidate.bitmapBlocks 0
      (fun _ => 0) fits
  have same := stored.symm.trans returned
  cases same
  refine (written address).trans ?_
  rw [if_neg (by omega)]

/-- The bytes of the superblock that `format` writes. -/
def superBytes (candidate : FsMeta) (index : Nat) : UInt8 :=
  (fsMagic ++ le32 candidate.totalBlocks ++
      le32 candidate.bitmapBlocks).getD
    index 0

theorem format_leaves
    (geometry : Geometry candidate)
    (disk : Disk) :
    ∃ final,
      format candidate disk = .ok candidate final ∧
        (∀ slot,
          final.inode slot =
            if slot = rootInode then
              rootRecord
            else if rootInode < slot ∧ slot ≤ inodesPerBlock then
              Inode.zero
            else
              disk.inode slot) ∧
        (∀ block,
          block < candidate.capacity →
          final.bit block = decide (block < candidate.dataStart)) ∧
        ∀ address,
          address < bitmapBytes →
          final.bytes address =
            blit disk.bytes (blockBytes 0) (superBytes candidate) blockSize
              address := by
  unfold format
  simp only [writeRange, Prog.modify_bind_apply]
  generalize isMarked :
    ({ disk with
        bytes :=
          blit disk.bytes (blockBytes 0)
            (fun index =>
              (fsMagic ++ le32 candidate.totalBlocks ++
                le32 candidate.bitmapBlocks).getD index 0)
            blockSize } :
      Disk) = written
  obtain ⟨marked, reserve, markedBits⟩ :=
    @reserveBlocks_spec written (fun _ => 0)
      (List.range (bitmapStart + candidate.bitmapBlocks))
  rw [Prog.bind_of_ok reserve]
  obtain ⟨stored, store, storedBits⟩ :=
    @storeBitmap_spec _ written geometry marked
  rw [Prog.bind_of_ok store]
  refine ⟨_, rfl, fun slot => ?_, fun block inCapacity => ?_,
    fun address before => ?_⟩
  · rw [← isMarked]
  · have fits := geometry.fits
    refine (storedBits block inCapacity).trans ?_
    have noBit : bitOf (fun _ => 0) block = false := by
      simp [bitOf]
    rw [markedBits, noBit, Bool.false_or]
    congr 1
    simp only [List.mem_range, FsMeta.dataStart, eq_iff_iff]
    omega
  · refine (storeBitmap_before geometry store before).trans ?_
    rw [← isMarked]
    rfl

theorem format_spec
    (geometry : Geometry candidate) :
    ∃ final,
      format candidate Disk.blank = .ok candidate final ∧
        ∀ block,
          block < candidate.capacity →
          final.bit block = decide (block < candidate.dataStart) := by
  obtain ⟨final, returned, _, bits, _⟩ := format_leaves geometry Disk.blank
  exact ⟨final, returned, bits⟩

/-- A disk of 2048 blocks, for examples. -/
def smallDisk : FsMeta where
  totalBlocks := 2048
  bitmapBlocks := 1

theorem geometry_smallDisk : Geometry smallDisk where
  dataBelow := by
    simp [smallDisk, FsMeta.dataStart, bitmapStart, inodeStart,
      inodeBlocks, inodeCount, inodeSize, blockSize]
  covered := by
    simp [smallDisk, FsMeta.capacity, blockSize]
  fits := by
    simp [smallDisk, FsMeta.capacity, blockSize, maxBitmapBytes]

end VibuxOS.Storage.Vfs
