import VibuxOS.Lib.Buffer
import VibuxOS.Storage.Nvme

namespace VibuxOS.Storage.NvmeRanges

open VibuxOS.Lib VibuxOS.Storage.Nvme

/-!
# Ranges of bytes on an NVMe device

`read_range`, `write_range`, `zero_range`, `read_blocks_into` and
`write_blocks_from` of `storage/nvme.rs`, over a device that performs one
command after the other.  A command may fail in any way; one that completes with
success moves the blocks it names between the device and the data page, and
nothing else.

Offsets and block numbers are natural numbers; a command holds the low 64 bits
of a block number and the low 16 bits of a count.
-/

def pageSize : Nat := 4096

/-- The bytes on the device, the data page, and the rest of the device. -/
structure Drive (δ : Type) where
  bytes : Nat → UInt8
  page : Nat → UInt8
  rest : δ

abbrev Io (δ : Type) := Prog (Drive δ) NvmeError

/-- A device, as what a command does until the driver stops to wait for it. -/
abbrev Device (δ : Type) := Request → Io δ Unit

/-- `lba_bytes` and `namespace_bytes` of `NvmeController` -/
structure Controller where
  lbaBytes : Nat
  namespaceBytes : Nat

variable {δ : Type}

/-- A command that completes with success moves the blocks it addresses. -/
structure Faithful
    (device : Device δ)
    (lbaBytes : Nat)
    (nsze : UInt64) : Prop where
  read :
    ∀ {lba : UInt64} {count : UInt16} {drive after : Drive δ},
      device (Nvme.readBlocks lba count) drive = .ok () after →
      count.toNat * lbaBytes ≤ pageSize →
      lba.toNat + count.toNat ≤ nsze.toNat ∧
        after.bytes = drive.bytes ∧
        after.page =
          blit drive.page 0
            (fun index => drive.bytes (lba.toNat * lbaBytes + index))
            (count.toNat * lbaBytes)
  write :
    ∀ {lba : UInt64} {count : UInt16} {drive after : Drive δ},
      device (Nvme.writeBlocks lba count) drive = .ok () after →
      count.toNat * lbaBytes ≤ pageSize →
      lba.toNat + count.toNat ≤ nsze.toNat ∧
        after.bytes =
          blit drive.bytes (lba.toNat * lbaBytes) drive.page
            (count.toNat * lbaBytes)
  zeroes :
    ∀ {lba : UInt64} {count : UInt16} {drive after : Drive δ},
      device (.writeZeroes lba count) drive = .ok () after →
      lba.toNat + count.toNat ≤ nsze.toNat ∧
        after.bytes =
          blit drive.bytes (lba.toNat * lbaBytes) (fun _ => 0)
            (count.toNat * lbaBytes)

/-! ## Commands -/

def readBlocks (device : Device δ) (lba count : Nat) : Io δ Unit :=
  if UInt16.ofNat count = 0 then
    Prog.fail .invalid
  else do
    Prog.modify fun drive => { drive with page := fun _ => 0 }
    device (Nvme.readBlocks (UInt64.ofNat lba) (UInt16.ofNat count))

def writeBlocks (device : Device δ) (lba count : Nat) : Io δ Unit :=
  if UInt16.ofNat count = 0 then
    Prog.fail .invalid
  else
    device (Nvme.writeBlocks (UInt64.ofNat lba) (UInt16.ofNat count))

def writeZeroes (device : Device δ) (lba count : Nat) : Io δ Unit :=
  if UInt16.ofNat count = 0 then
    Prog.fail .invalid
  else
    device (.writeZeroes (UInt64.ofNat lba) (UInt16.ofNat count))

namespace Controller

def blocksPerPage (controller : Controller) : Nat :=
  pageSize / controller.lbaBytes

/-- The check of the size of a block. -/
def badLba (controller : Controller) : Bool :=
  controller.lbaBytes == 0 || pageSize % controller.lbaBytes != 0

/-- The copy between the data page and a buffer. -/
def setPage (input : Nat → UInt8) (length : Nat) : Io δ Unit :=
  Prog.modify fun drive =>
    { drive with page := blit drive.page 0 input length }

def read4k
    (controller : Controller)
    (device : Device δ)
    (lba : Nat) :
    Io δ (Nat → UInt8) :=
  if controller.badLba then
    Prog.fail .invalid
  else do
    NvmeRanges.readBlocks device lba controller.blocksPerPage
    Prog.gets Drive.page

def write4k
    (controller : Controller)
    (device : Device δ)
    (lba : Nat)
    (input : Nat → UInt8) :
    Io δ Unit :=
  if controller.badLba then
    Prog.fail .invalid
  else do
    setPage input pageSize
    NvmeRanges.writeBlocks device lba controller.blocksPerPage

/-! ## Ranges -/

/-- `byte_offset.checked_add(length)` and the check of the end -/
def outOfRange
    (controller : Controller)
    (byteOffset length : Nat) :
    Bool :=
  2 ^ 64 ≤ byteOffset + length ||
    controller.namespaceBytes < byteOffset + length

/-- The bytes of a page that a range has from an offset on. -/
def chunk (offset remaining : Nat) : Nat :=
  min (pageSize - offset % pageSize) remaining

theorem chunk_pos
    {offset remaining : Nat}
    (more : remaining ≠ 0) :
    0 < chunk offset remaining := by
  have inPage : offset % pageSize < pageSize := Nat.mod_lt _ (by decide)
  unfold chunk
  omega

/-- The loop of `read_range` -/
def readRangeLoop
    (controller : Controller)
    (device : Device δ)
    (offset dst remaining : Nat)
    (buf : Nat → UInt8) :
    Io δ (Nat → UInt8) :=
  if remaining = 0 then
    pure buf
  else do
    let page ←
      controller.read4k device
        (offset / pageSize * controller.blocksPerPage)
    readRangeLoop controller device (offset + chunk offset remaining)
      (dst + chunk offset remaining) (remaining - chunk offset remaining)
      (blit buf dst (fun index => page (offset % pageSize + index))
        (chunk offset remaining))
termination_by remaining
decreasing_by
  rename_i more
  have progress := @chunk_pos offset remaining more
  omega

/-- `read_range` into a buffer with a length -/
def readRange
    (controller : Controller)
    (device : Device δ)
    (byteOffset length : Nat)
    (buf : Nat → UInt8) :
    Io δ (Nat → UInt8) :=
  if controller.badLba then
    Prog.fail .invalid
  else if length = 0 then
    pure buf
  else if controller.outOfRange byteOffset length then
    Prog.fail .outOfRange
  else
    controller.readRangeLoop device byteOffset 0 length buf

/-- The page of a round of `write_range`, which reads it unless it is whole. -/
def pageToWrite
    (controller : Controller)
    (device : Device δ)
    (offset src remaining : Nat)
    (buf : Nat → UInt8) :
    Io δ (Nat → UInt8) :=
  if offset % pageSize = 0 ∧ chunk offset remaining = pageSize then
    pure fun index => buf (src + index)
  else do
    let page ←
      controller.read4k device
        (offset / pageSize * controller.blocksPerPage)
    pure
      (blit page (offset % pageSize) (fun index => buf (src + index))
        (chunk offset remaining))

/-- The loop of `write_range` -/
def writeRangeLoop
    (controller : Controller)
    (device : Device δ)
    (offset src remaining : Nat)
    (buf : Nat → UInt8) :
    Io δ Unit :=
  if remaining = 0 then
    pure ()
  else do
    let page ← controller.pageToWrite device offset src remaining buf
    controller.write4k device
      (offset / pageSize * controller.blocksPerPage) page
    writeRangeLoop controller device (offset + chunk offset remaining)
      (src + chunk offset remaining) (remaining - chunk offset remaining) buf
termination_by remaining
decreasing_by
  rename_i more
  have progress := @chunk_pos offset remaining more
  omega

/-- `write_range` of a buffer with a length -/
def writeRange
    (controller : Controller)
    (device : Device δ)
    (byteOffset length : Nat)
    (buf : Nat → UInt8) :
    Io δ Unit :=
  if controller.badLba then
    Prog.fail .invalid
  else if length = 0 then
    pure ()
  else if controller.outOfRange byteOffset length then
    Prog.fail .outOfRange
  else
    controller.writeRangeLoop device byteOffset 0 length buf

/-- The round of `zero_range` for a part of a page -/
def zeroPart
    (controller : Controller)
    (device : Device δ)
    (offset remaining : Nat) :
    Io δ Unit := do
  let page ←
    controller.read4k device
      (offset / pageSize * controller.blocksPerPage)
  controller.write4k device
    (offset / pageSize * controller.blocksPerPage)
    (blit page (offset % pageSize) (fun _ => 0) (chunk offset remaining))

/-- The loop of `zero_range` -/
def zeroRangeLoop
    (controller : Controller)
    (device : Device δ)
    (offset remaining : Nat) :
    Io δ Unit :=
  if remaining = 0 then
    pure ()
  else if offset % pageSize = 0 ∧ pageSize ≤ remaining then do
    writeZeroes device (offset / pageSize * controller.blocksPerPage)
      controller.blocksPerPage
    zeroRangeLoop controller device (offset + pageSize) (remaining - pageSize)
  else do
    controller.zeroPart device offset remaining
    zeroRangeLoop controller device (offset + chunk offset remaining)
      (remaining - chunk offset remaining)
termination_by remaining
decreasing_by
  · have size : pageSize = 4096 := rfl
    omega
  · rename_i more _
    have progress := @chunk_pos offset remaining more
    omega

def zeroRange
    (controller : Controller)
    (device : Device δ)
    (byteOffset length : Nat) :
    Io δ Unit :=
  if length = 0 then
    pure ()
  else if controller.outOfRange byteOffset length then
    Prog.fail .outOfRange
  else if controller.badLba then
    Prog.fail .invalid
  else
    controller.zeroRangeLoop device byteOffset length

/-! ## Blocks -/

/-- The loop of `read_blocks_into`, with the rounds that are left at most -/
def readBlocksLoop
    (controller : Controller)
    (device : Device δ) :
    Nat → Nat → Nat → Nat → (Nat → UInt8) → Io δ (Nat → UInt8)
  | 0, _, _, remainingBlocks, buf =>
      if remainingBlocks = 0 then pure buf else Prog.hang
  | rounds + 1, currentLba, dst, remainingBlocks, buf =>
      if remainingBlocks = 0 then
        pure buf
      else do
        let part := min remainingBlocks controller.blocksPerPage
        NvmeRanges.readBlocks device currentLba part
        let page ← Prog.gets Drive.page
        readBlocksLoop controller device rounds (currentLba + part)
          (dst + part * controller.lbaBytes) (remainingBlocks - part)
          (blit buf dst page (part * controller.lbaBytes))

/-- `read_blocks_into` a buffer with a length -/
def readBlocksInto
    (controller : Controller)
    (device : Device δ)
    (lba : UInt64)
    (count : UInt16)
    (length : Nat)
    (buf : Nat → UInt8) :
    Io δ (Nat → UInt8) :=
  if count = 0 then
    pure buf
  else if controller.lbaBytes = 0 then
    Prog.fail .invalid
  else if 2 ^ 64 ≤ count.toNat * controller.lbaBytes then
    Prog.fail .outOfRange
  else if length < count.toNat * controller.lbaBytes then
    Prog.fail .bufferTooSmall
  else
    controller.readBlocksLoop device count.toNat lba.toNat 0 count.toNat buf

/-- The loop of `write_blocks_from`, with the rounds that are left at most -/
def writeBlocksLoop
    (controller : Controller)
    (device : Device δ)
    (buf : Nat → UInt8) :
    Nat → Nat → Nat → Nat → Io δ Unit
  | 0, _, _, remainingBlocks =>
      if remainingBlocks = 0 then pure () else Prog.hang
  | rounds + 1, currentLba, src, remainingBlocks =>
      if remainingBlocks = 0 then
        pure ()
      else do
        let part := min remainingBlocks controller.blocksPerPage
        setPage (fun index => buf (src + index)) (part * controller.lbaBytes)
        NvmeRanges.writeBlocks device currentLba part
        writeBlocksLoop controller device buf rounds (currentLba + part)
          (src + part * controller.lbaBytes) (remainingBlocks - part)

/-- `write_blocks_from` a buffer with a length -/
def writeBlocksFrom
    (controller : Controller)
    (device : Device δ)
    (lba : UInt64)
    (count : UInt16)
    (length : Nat)
    (buf : Nat → UInt8) :
    Io δ Unit :=
  if count = 0 then
    pure ()
  else if controller.lbaBytes = 0 then
    Prog.fail .invalid
  else if 2 ^ 64 ≤ count.toNat * controller.lbaBytes then
    Prog.fail .outOfRange
  else if length < count.toNat * controller.lbaBytes then
    Prog.fail .bufferTooSmall
  else
    controller.writeBlocksLoop device buf count.toNat lba.toNat 0 count.toNat

end Controller

/-! ## What commands do -/

section Commands

variable
  {device : Device δ}
  {controller : Controller}
  {nsze : UInt64}
  {drive after : Drive δ}

section

variable
  {lba count : Nat}
  (faithful : Faithful device controller.lbaBytes nsze)
  (fits : count * controller.lbaBytes ≤ pageSize)
  (lbaFits : lba < 2 ^ 64)
  (countFits : count < 2 ^ 16)

include faithful fits lbaFits countFits

theorem readBlocks_eq_ok
    (returned : readBlocks device lba count drive = .ok () after) :
    lba + count ≤ nsze.toNat ∧
      after.bytes = drive.bytes ∧
      ∀ index, index < count * controller.lbaBytes →
        after.page index =
          drive.bytes (lba * controller.lbaBytes + index) := by
  unfold readBlocks at returned
  split at returned
  · cases returned
  · rw [Prog.modify_bind_apply] at returned
    have moved := faithful.read returned
    rw [UInt64.toNat_ofNat_of_lt' lbaFits,
      UInt16.toNat_ofNat_of_lt' countFits] at moved
    obtain ⟨inRange, sameBytes, page⟩ := moved fits
    refine ⟨inRange, sameBytes, ?_⟩
    intro index inside
    rw [page, blit_inside (Nat.zero_le _) (by omega), Nat.sub_zero]

theorem writeBlocks_eq_ok
    (returned : writeBlocks device lba count drive = .ok () after) :
    lba + count ≤ nsze.toNat ∧
      after.bytes =
        blit drive.bytes (lba * controller.lbaBytes) drive.page
          (count * controller.lbaBytes) := by
  unfold writeBlocks at returned
  split at returned
  · cases returned
  · have moved := faithful.write returned
    rw [UInt64.toNat_ofNat_of_lt' lbaFits,
      UInt16.toNat_ofNat_of_lt' countFits] at moved
    exact moved fits

end

theorem writeZeroes_eq_ok
    (faithful : Faithful device controller.lbaBytes nsze)
    {lba count : Nat}
    (lbaFits : lba < 2 ^ 64)
    (countFits : count < 2 ^ 16)
    (returned : writeZeroes device lba count drive = .ok () after) :
    after.bytes =
      blit drive.bytes (lba * controller.lbaBytes) (fun _ => 0)
        (count * controller.lbaBytes) := by
  unfold writeZeroes at returned
  split at returned
  · cases returned
  · have moved := faithful.zeroes returned
    rw [UInt64.toNat_ofNat_of_lt' lbaFits,
      UInt16.toNat_ofNat_of_lt' countFits] at moved
    exact moved.2

end Commands

/-! ## Whole pages -/

section Pages

variable
  {device : Device δ}
  {controller : Controller}
  {nsze : UInt64}
  {drive after : Drive δ}

theorem blocksPerPage_mul
    (divides : controller.lbaBytes ∣ pageSize) :
    controller.blocksPerPage * controller.lbaBytes = pageSize :=
  Nat.div_mul_cancel divides

theorem pageLba
    (divides : controller.lbaBytes ∣ pageSize)
    {offset : Nat}
    (inRange : offset < 2 ^ 64) :
    offset / pageSize * controller.blocksPerPage < 2 ^ 64 ∧
      controller.blocksPerPage < 2 ^ 16 ∧
      offset / pageSize * controller.blocksPerPage * controller.lbaBytes =
        offset / pageSize * pageSize := by
  have small : controller.blocksPerPage ≤ pageSize :=
    Nat.div_le_self _ _
  have size : pageSize = 4096 := rfl
  have below : offset / pageSize * controller.blocksPerPage ≤
      offset / pageSize * pageSize :=
    Nat.mul_le_mul_left _ small
  have down := Nat.div_mul_le_self offset pageSize
  refine ⟨by omega, by omega, ?_⟩
  rw [Nat.mul_assoc, blocksPerPage_mul divides]

section

variable
  {offset : Nat}
  (faithful : Faithful device controller.lbaBytes nsze)
  (divides : controller.lbaBytes ∣ pageSize)
  (inRange : offset < 2 ^ 64)

include faithful divides inRange

theorem read4k_eq_ok
    {page : Nat → UInt8}
    (returned :
      controller.read4k device
          (offset / pageSize * controller.blocksPerPage) drive =
        .ok page after) :
    after.bytes = drive.bytes ∧
      ∀ index, index < pageSize →
        page index = drive.bytes (offset / pageSize * pageSize + index) := by
  obtain ⟨lbaFits, countFits, first⟩ := pageLba divides inRange
  have whole := blocksPerPage_mul divides
  unfold Controller.read4k at returned
  split at returned
  · cases returned
  · obtain ⟨_, middle, read, got⟩ := Prog.bind_eq_ok.mp returned
    cases got
    obtain ⟨_, sameBytes, moved⟩ :=
      readBlocks_eq_ok faithful (Nat.le_of_eq whole) lbaFits countFits read
    rw [whole, first] at moved
    exact ⟨sameBytes, moved⟩

theorem write4k_eq_ok
    {input : Nat → UInt8}
    (returned :
      controller.write4k device
          (offset / pageSize * controller.blocksPerPage) input drive =
        .ok () after) :
    after.bytes =
      blit drive.bytes (offset / pageSize * pageSize) input pageSize := by
  obtain ⟨lbaFits, countFits, first⟩ := pageLba divides inRange
  have whole := blocksPerPage_mul divides
  unfold Controller.write4k at returned
  split at returned
  · cases returned
  · rw [Controller.setPage, Prog.modify_bind_apply] at returned
    obtain ⟨_, moved⟩ :=
      writeBlocks_eq_ok faithful (Nat.le_of_eq whole) lbaFits countFits
        returned
    rw [whole, first] at moved
    rw [moved]
    apply blit_congr
    intro index inside
    dsimp only
    rw [blit_inside (Nat.zero_le _) (by omega), Nat.sub_zero]

end

theorem chunk_fits
    (offset remaining : Nat) :
    offset % pageSize + Controller.chunk offset remaining ≤ pageSize ∧
      Controller.chunk offset remaining ≤ remaining ∧
      offset / pageSize * pageSize + offset % pageSize = offset := by
  have inPage : offset % pageSize < pageSize := Nat.mod_lt _ (by decide)
  have split := Nat.div_add_mod' offset pageSize
  unfold Controller.chunk
  omega

end Pages

/-! ## The device as an array of bytes -/

section Ranges

variable
  {device : Device δ}
  {controller : Controller}
  {nsze : UInt64}

theorem blit_parts
    {target source : Nat → UInt8}
    {start part whole : Nat}
    (inside : part ≤ whole) :
    blit (blit target start source part) (start + part)
        (fun index => source (part + index)) (whole - part) =
      blit target start source whole := by
  rw [blit_blit, Nat.add_sub_cancel' inside]

theorem readRangeLoop_eq_ok
    (faithful : Faithful device controller.lbaBytes nsze)
    (divides : controller.lbaBytes ∣ pageSize)
    {offset dst remaining : Nat}
    {buf result : Nat → UInt8}
    {drive after : Drive δ}
    (inRange : offset + remaining < 2 ^ 64)
    (returned :
      controller.readRangeLoop device offset dst remaining buf drive =
        .ok result after) :
    after.bytes = drive.bytes ∧
      result =
        blit buf dst (fun index => drive.bytes (offset + index))
          remaining := by
  induction offset, dst, remaining, buf
    using Controller.readRangeLoop.induct generalizing drive with
  | case1 offset dst buf =>
      rw [Controller.readRangeLoop, if_pos rfl] at returned
      cases returned
      exact ⟨rfl, (blit_zero _ _ _).symm⟩
  | case2 offset dst remaining buf more inductionHypothesis =>
      obtain ⟨inPage, inRest, start⟩ := chunk_fits offset remaining
      rw [Controller.readRangeLoop, if_neg more] at returned
      obtain ⟨page, middle, read, later⟩ := Prog.bind_eq_ok.mp returned
      obtain ⟨sameBytes, isPage⟩ :=
        read4k_eq_ok faithful divides (by omega) read
      obtain ⟨sameLater, rest⟩ :=
        inductionHypothesis page (by omega) later
      have part :
          blit buf dst (fun index => page (offset % pageSize + index))
              (Controller.chunk offset remaining) =
            blit buf dst (fun index => drive.bytes (offset + index))
              (Controller.chunk offset remaining) := by
        apply blit_congr
        intro index inside
        rw [isPage _ (by omega), ← Nat.add_assoc, start]
      refine ⟨sameLater.trans sameBytes, ?_⟩
      rw [rest, part, sameBytes, ← blit_parts inRest]
      simp only [Nat.add_assoc]

section

variable
  {offset src remaining : Nat}
  (faithful : Faithful device controller.lbaBytes nsze)
  (divides : controller.lbaBytes ∣ pageSize)
  (inRange : offset + remaining < 2 ^ 64)

include faithful divides inRange

theorem pageToWrite_eq_ok
    {buf page : Nat → UInt8}
    {drive after : Drive δ}
    (returned :
      controller.pageToWrite device offset src remaining buf drive =
        .ok page after) :
    after.bytes = drive.bytes ∧
      blit drive.bytes (offset / pageSize * pageSize) page pageSize =
        blit drive.bytes offset (fun index => buf (src + index))
          (Controller.chunk offset remaining) := by
  obtain ⟨inPage, inRest, start⟩ := chunk_fits offset remaining
  unfold Controller.pageToWrite at returned
  split at returned
  · rename_i whole
    cases returned
    rw [whole.1, Nat.add_zero] at start
    rw [start, whole.2]
    exact ⟨rfl, rfl⟩
  · obtain ⟨old, middle, read, changed⟩ := Prog.bind_eq_ok.mp returned
    cases changed
    obtain ⟨sameBytes, isPage⟩ :=
      read4k_eq_ok faithful divides (by omega) read
    refine ⟨sameBytes, ?_⟩
    rw [blit_of_changed isPage inPage, start]

theorem writeRangeLoop_eq_ok
    {buf : Nat → UInt8}
    {drive after : Drive δ}
    (returned :
      controller.writeRangeLoop device offset src remaining buf drive =
        .ok () after) :
    after.bytes =
      blit drive.bytes offset (fun index => buf (src + index))
        remaining := by
  induction offset, src, remaining
    using Controller.writeRangeLoop.induct generalizing drive with
  | case1 offset src =>
      rw [Controller.writeRangeLoop, if_pos rfl] at returned
      cases returned
      exact (blit_zero _ _ _).symm
  | case2 offset src remaining more inductionHypothesis =>
      have inRest := (chunk_fits offset remaining).2.1
      rw [Controller.writeRangeLoop, if_neg more] at returned
      obtain ⟨page, middle, made, writing⟩ := Prog.bind_eq_ok.mp returned
      obtain ⟨_, written, wrote, later⟩ := Prog.bind_eq_ok.mp writing
      obtain ⟨sameBytes, part⟩ :=
        pageToWrite_eq_ok faithful divides inRange made
      have first := write4k_eq_ok faithful divides (by omega) wrote
      rw [sameBytes, part] at first
      rw [inductionHypothesis (by omega) later, first, ← blit_parts inRest]
      simp only [Nat.add_assoc]

end

section

variable
  (faithful : Faithful device controller.lbaBytes nsze)
  (divides : controller.lbaBytes ∣ pageSize)

include faithful divides

theorem zeroRangeLoop_eq_ok
    {offset remaining : Nat}
    {drive after : Drive δ}
    (inRange : offset + remaining < 2 ^ 64)
    (returned :
      controller.zeroRangeLoop device offset remaining drive =
        .ok () after) :
    after.bytes = blit drive.bytes offset (fun _ => 0) remaining := by
  induction offset, remaining
    using Controller.zeroRangeLoop.induct generalizing drive with
  | case1 offset =>
      rw [Controller.zeroRangeLoop, if_pos rfl] at returned
      cases returned
      exact (blit_zero _ _ _).symm
  | case2 offset remaining more whole inductionHypothesis =>
      rw [Controller.zeroRangeLoop, if_neg more, if_pos whole] at returned
      obtain ⟨_, middle, zeroed, later⟩ := Prog.bind_eq_ok.mp returned
      obtain ⟨lbaFits, countFits, first⟩ :=
        @pageLba controller divides offset (by omega)
      have start := Nat.div_add_mod' offset pageSize
      rw [whole.1, Nat.add_zero] at start
      have part := writeZeroes_eq_ok faithful lbaFits countFits zeroed
      rw [first, start, blocksPerPage_mul divides] at part
      rw [inductionHypothesis (by omega) later, part]
      exact @blit_parts _ (fun _ => 0) _ _ _ whole.2
  | case3 offset remaining more partly inductionHypothesis =>
      obtain ⟨inPage, inRest, start⟩ := chunk_fits offset remaining
      rw [Controller.zeroRangeLoop, if_neg more, if_neg partly] at returned
      obtain ⟨_, middle, zeroed, later⟩ := Prog.bind_eq_ok.mp returned
      obtain ⟨page, held, read, wrote⟩ := Prog.bind_eq_ok.mp zeroed
      obtain ⟨sameBytes, isPage⟩ :=
        read4k_eq_ok faithful divides (by omega) read
      have part := write4k_eq_ok faithful divides (by omega) wrote
      rw [sameBytes, blit_of_changed isPage inPage, start] at part
      rw [inductionHypothesis (by omega) later, part]
      exact @blit_parts _ (fun _ => 0) _ _ _ inRest

omit faithful divides in
theorem part_fits
    (divides : controller.lbaBytes ∣ pageSize)
    (blocks : Nat) :
    min blocks controller.blocksPerPage * controller.lbaBytes ≤ pageSize ∧
      min blocks controller.blocksPerPage * controller.lbaBytes ≤
        blocks * controller.lbaBytes := by
  have whole := blocksPerPage_mul divides
  constructor
  · rw [← whole]
    exact Nat.mul_le_mul_right _ (Nat.min_le_right _ _)
  · exact Nat.mul_le_mul_right _ (Nat.min_le_left _ _)

theorem readBlocksLoop_eq_ok
    {rounds currentLba dst remainingBlocks : Nat}
    {buf result : Nat → UInt8}
    {drive after : Drive δ}
    (lbaFits : currentLba < 2 ^ 64)
    (countFits : remainingBlocks < 2 ^ 16)
    (returned :
      controller.readBlocksLoop device rounds currentLba dst remainingBlocks
          buf drive =
        .ok result after) :
    after.bytes = drive.bytes ∧
      result =
        blit buf dst
          (fun index =>
            drive.bytes (currentLba * controller.lbaBytes + index))
          (remainingBlocks * controller.lbaBytes) := by
  induction rounds generalizing currentLba dst remainingBlocks buf drive with
  | zero =>
      rw [Controller.readBlocksLoop] at returned
      split at returned
      · rename_i done
        cases returned
        rw [done, Nat.zero_mul, blit_zero]
        exact ⟨rfl, rfl⟩
      · cases returned
  | succ rounds inductionHypothesis =>
      rw [Controller.readBlocksLoop] at returned
      split at returned
      · rename_i done
        cases returned
        rw [done, Nat.zero_mul, blit_zero]
        exact ⟨rfl, rfl⟩
      · obtain ⟨inPage, inRest⟩ := part_fits divides remainingBlocks
        have atMost := Nat.min_le_left remainingBlocks controller.blocksPerPage
        obtain ⟨_, middle, read, later⟩ := Prog.bind_eq_ok.mp returned
        rw [Prog.gets_bind_apply] at later
        obtain ⟨inRange, sameBytes, moved⟩ :=
          readBlocks_eq_ok faithful inPage lbaFits (by omega) read
        have below := nsze.toNat_lt
        obtain ⟨sameLater, rest⟩ :=
          inductionHypothesis (by omega) (by omega) later
        refine ⟨sameLater.trans sameBytes, ?_⟩
        rw [rest, blit_congr moved, sameBytes, ← blit_parts inRest,
          Nat.sub_mul]
        simp only [Nat.add_mul, Nat.add_assoc]

theorem writeBlocksLoop_eq_ok
    {rounds currentLba src remainingBlocks : Nat}
    {buf : Nat → UInt8}
    {drive after : Drive δ}
    (lbaFits : currentLba < 2 ^ 64)
    (countFits : remainingBlocks < 2 ^ 16)
    (returned :
      controller.writeBlocksLoop device buf rounds currentLba src
          remainingBlocks drive =
        .ok () after) :
    after.bytes =
      blit drive.bytes (currentLba * controller.lbaBytes)
        (fun index => buf (src + index))
        (remainingBlocks * controller.lbaBytes) := by
  induction rounds generalizing currentLba src remainingBlocks drive with
  | zero =>
      rw [Controller.writeBlocksLoop] at returned
      split at returned
      · rename_i done
        cases returned
        rw [done, Nat.zero_mul, blit_zero]
      · cases returned
  | succ rounds inductionHypothesis =>
      rw [Controller.writeBlocksLoop] at returned
      split at returned
      · rename_i done
        cases returned
        rw [done, Nat.zero_mul, blit_zero]
      · obtain ⟨inPage, inRest⟩ := part_fits divides remainingBlocks
        have atMost := Nat.min_le_left remainingBlocks controller.blocksPerPage
        dsimp only at returned
        rw [Controller.setPage, Prog.modify_bind_apply] at returned
        obtain ⟨_, middle, wrote, later⟩ := Prog.bind_eq_ok.mp returned
        obtain ⟨inRange, moved⟩ :=
          writeBlocks_eq_ok faithful inPage lbaFits (by omega) wrote
        have below := nsze.toNat_lt
        have part :
            middle.bytes =
              blit drive.bytes (currentLba * controller.lbaBytes)
                (fun index => buf (src + index))
                (min remainingBlocks controller.blocksPerPage *
                  controller.lbaBytes) := by
          rw [moved]
          apply blit_congr
          intro index inside
          dsimp only
          rw [blit_inside (Nat.zero_le _) (by omega), Nat.sub_zero]
        rw [inductionHypothesis (by omega) (by omega) later, part,
          ← blit_parts inRest, Nat.add_mul, Nat.sub_mul]
        simp only [Nat.add_assoc]

end

end Ranges

/-! ## The laws -/

/-- A call that reads a range of the bytes into a buffer. -/
def Reads
    (offset length : Nat)
    (buf : Nat → UInt8)
    (drive : Drive δ)
    (result : Nat → UInt8)
    (after : Drive δ) : Prop :=
  after.bytes = drive.bytes ∧
    result = blit buf 0 (fun index => drive.bytes (offset + index)) length

/-- A call that replaces a range of the bytes by a buffer. -/
def Writes
    (offset length : Nat)
    (buf : Nat → UInt8)
    (drive after : Drive δ) : Prop :=
  after.bytes = blit drive.bytes offset buf length

/-- The calls that return with success treat the device as one array of bytes. -/
structure FlatArray
    (device : Device δ)
    (controller : Controller) : Prop where
  readRange :
    ∀ {byteOffset length : Nat} {buf result : Nat → UInt8}
        {drive after : Drive δ},
      controller.readRange device byteOffset length buf drive =
        .ok result after →
      Reads byteOffset length buf drive result after
  writeRange :
    ∀ {byteOffset length : Nat} {buf : Nat → UInt8} {drive after : Drive δ},
      controller.writeRange device byteOffset length buf drive =
        .ok () after →
      Writes byteOffset length buf drive after
  zeroRange :
    ∀ {byteOffset length : Nat} {drive after : Drive δ},
      controller.zeroRange device byteOffset length drive = .ok () after →
      Writes byteOffset length (fun _ => 0) drive after
  readBlocksInto :
    ∀ {lba : UInt64} {count : UInt16} {length : Nat}
        {buf result : Nat → UInt8} {drive after : Drive δ},
      controller.readBlocksInto device lba count length buf drive =
        .ok result after →
      Reads (lba.toNat * controller.lbaBytes)
        (count.toNat * controller.lbaBytes) buf drive result after
  writeBlocksFrom :
    ∀ {lba : UInt64} {count : UInt16} {length : Nat}
        {buf : Nat → UInt8} {drive after : Drive δ},
      controller.writeBlocksFrom device lba count length buf drive =
        .ok () after →
      Writes (lba.toNat * controller.lbaBytes)
        (count.toNat * controller.lbaBytes) buf drive after

theorem end_fits
    {controller : Controller}
    {byteOffset length : Nat}
    (inRange : ¬ controller.outOfRange byteOffset length = true) :
    byteOffset + length < 2 ^ 64 := by
  unfold Controller.outOfRange at inRange
  rw [Bool.or_eq_true, not_or, decide_eq_true_eq] at inRange
  exact Nat.lt_of_not_le inRange.1

/-- A device without faults, with a number of blocks. -/
def perfectDevice (lbaBytes : Nat) (nsze : UInt64) : Device Unit
  | .ioTransfer opcode lba count, drive =>
      if nsze.toNat < lba.toNat + count.toNat then
        .err (.status 0x80 0) drive
      else if opcode = opIoRead then
        .ok ()
          { drive with
            page :=
              blit drive.page 0
                (fun index => drive.bytes (lba.toNat * lbaBytes + index))
                (count.toNat * lbaBytes) }
      else
        .ok ()
          { drive with
            bytes :=
              blit drive.bytes (lba.toNat * lbaBytes) drive.page
                (count.toNat * lbaBytes) }
  | .writeZeroes lba count, drive =>
      if nsze.toNat < lba.toNat + count.toNat then
        .err (.status 0x80 0) drive
      else
        .ok ()
          { drive with
            bytes :=
              blit drive.bytes (lba.toNat * lbaBytes) (fun _ => 0)
                (count.toNat * lbaBytes) }
  | _, drive => .ok () drive

theorem faithful_perfectDevice
    (lbaBytes : Nat)
    (nsze : UInt64) :
    Faithful (perfectDevice lbaBytes nsze) lbaBytes nsze := by
  constructor
  · intro lba count drive after returned _
    unfold Nvme.readBlocks perfectDevice at returned
    dsimp only at returned
    split at returned
    · cases returned
    · rename_i inRange
      cases returned
      exact ⟨Nat.le_of_not_lt inRange, rfl, rfl⟩
  · intro lba count drive after returned _
    unfold Nvme.writeBlocks perfectDevice at returned
    dsimp only at returned
    split at returned
    · cases returned
    · rename_i inRange
      cases returned
      exact ⟨Nat.le_of_not_lt inRange, rfl⟩
  · intro lba count drive after returned
    unfold perfectDevice at returned
    dsimp only at returned
    split at returned
    · cases returned
    · rename_i inRange
      cases returned
      exact ⟨Nat.le_of_not_lt inRange, rfl⟩

end VibuxOS.Storage.NvmeRanges
