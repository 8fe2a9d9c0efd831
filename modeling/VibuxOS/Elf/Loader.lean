import VibuxOS.Elf.Format
import VibuxOS.Paging.FrameBytes

namespace VibuxOS.Elf

open VibuxOS.Lib
open VibuxOS.Paging

/-!
# The loader of executables

`load_at` of `velf/loader.rs`.  A first pass over the program headers checks the
segments and finds their bounds.  A second pass gives every page of a segment a
frame of its own, maps it and fills it with the bytes of the file.
-/

/-- `Loaded`; `stop` is its field `end`. -/
structure Loaded where
  entry : UInt64
  bias : UInt64
  start : UInt64
  stop : UInt64
  segments : Nat
  pages : Nat
  deriving Repr, DecidableEq

def down (value : UInt64) : UInt64 :=
  value &&& ~~~(pageSize - 1)

def up (value : UInt64) : Option UInt64 :=
  (checkedAdd value (pageSize - 1)).map down

/-- `checked_add`, with `Error::AddressOverflow` for an overflow -/
def addAddress (left right : UInt64) : Except Error UInt64 :=
  okOr .addressOverflow (checkedAdd left right)

def validateSegment
    (image : Image)
    (segment : ProgramHeader) :
    Except Error Unit :=
  if segment.memsz < segment.filesz then
    .error .fileszGreaterThanMemsz
  else if segment.align ≠ 0 ∧ segment.align &&& (segment.align - 1) ≠ 0 then
    .error .badAlignment
  else do
    let _ ← image.bytesAt segment.offset segment.filesz
    let _ ← addAddress segment.vaddr segment.memsz
    pure ()

/-- `mapped_start` and `mapped_end` of a segment -/
def mappedRange
    (segment : ProgramHeader)
    (bias : UInt64) :
    Except Error (UInt64 × UInt64) := do
  let start ← addAddress segment.vaddr bias
  let size ← addAddress segment.vaddr segment.memsz
  let rawEnd ← addAddress size bias
  let mappedEnd ← okOr .addressOverflow (up rawEnd)
  pure (down start, mappedEnd)

/-- What the first pass has found so far. -/
structure Scan where
  segments : Nat
  start : UInt64
  stop : UInt64
  deriving Repr, DecidableEq

/-- The first pass at one program header. -/
def scanSegment
    (image : Image)
    (bias : UInt64)
    (index : Nat)
    (scan : Scan) :
    Except Error Scan := do
  let segment ← image.phdr index
  if segment.kind ≠ ptLoad then
    pure scan
  else if 32 ≤ scan.segments then
    .error .tooManyLoadSegments
  else do
    validateSegment image segment
    let range ← mappedRange segment bias
    if userLimit ≤ range.1 ∨ userLimit < range.2 then
      .error .outsideUserRange
    else
      pure
        { segments := scan.segments + 1
          start := min scan.start range.1
          stop := max scan.stop range.2 }

/-- The first pass. -/
def scanSegments
    (image : Image)
    (bias : UInt64) :
    List Nat → Scan → Except Error Scan
  | [], scan => .ok scan
  | index :: rest, scan => do
      let next ← scanSegment image bias index scan
      scanSegments image bias rest next

def segmentFlags (segment : ProgramHeader) : PageFlags :=
  let flags := PageFlags.user
  let flags :=
    if segment.flags &&& pfW ≠ 0 then flags.union .writable else flags
  if segment.flags &&& pfX = 0 then flags.union .noExecute else flags

variable {κ : Type}

def populate
    (image : Image)
    (segment : ProgramHeader)
    (bias virtualPage physicalOffset physical : UInt64) :
    Kernel κ Error Unit := do
  let start ← Prog.ofExcept (addAddress segment.vaddr bias)
  let fileEnd ← Prog.ofExcept (addAddress start segment.filesz)
  let pageEnd ← Prog.ofExcept (addAddress virtualPage pageSize)
  let copyStart := max start virtualPage
  let copyEnd := min fileEnd pageEnd
  -- `physical_pointer`; the model names a frame by its physical address
  let _ ← Prog.ofExcept (addAddress physicalOffset physical)
  zeroFrame physical
  if copyEnd ≤ copyStart then
    pure ()
  else do
    let sourceOffset ←
      Prog.ofExcept (addAddress segment.offset (copyStart - start))
    let source ←
      Prog.ofExcept (image.bytesAt sourceOffset (copyEnd - copyStart))
    copyIntoFrame physical (copyStart - virtualPage).toNat source

/-- The second pass at one page. -/
def loadPage
    (allocate : Allocate κ)
    (image : Image)
    (segment : ProgramHeader)
    (bias physicalOffset page : UInt64) :
    Kernel κ Error Unit := do
  let found ← Prog.gets fun machine =>
    translate machine.memory machine.cr3 page
  if found.isSome then
    Prog.fail (.pageAlreadyMapped page)
  else do
    match ← allocateFrame allocate with
    | none => Prog.fail .outOfMemory
    | some physical =>
        Prog.mapError (fun _ => .mappingFailed)
          (map4k allocate page physical (segmentFlags segment))
        populate image segment bias page physicalOffset physical

/-- The loop of the second pass over the pages of a segment. -/
def loadPages
    (allocate : Allocate κ)
    (image : Image)
    (segment : ProgramHeader)
    (bias physicalOffset mappedEnd : UInt64) :
    Nat → UInt64 → Nat → Kernel κ Error Nat
  | 0, _, _ => Prog.hang
  | fuel + 1, page, pages =>
      if page < mappedEnd then do
        loadPage allocate image segment bias physicalOffset page
        let next ← Prog.ofExcept (addAddress page pageSize)
        loadPages allocate image segment bias physicalOffset mappedEnd fuel
          next (pages + 1)
      else
        pure pages

/-- The second pass. -/
def loadSegments
    (allocate : Allocate κ)
    (image : Image)
    (bias physicalOffset : UInt64) :
    List Nat → Nat → Kernel κ Error Nat
  | [], pages => pure pages
  | index :: rest, pages => do
      let segment ← Prog.ofExcept (image.phdr index)
      if segment.kind ≠ ptLoad then
        loadSegments allocate image bias physicalOffset rest pages
      else do
        let range ← Prog.ofExcept (mappedRange segment bias)
        -- more turns than the range has pages
        let more ←
          loadPages allocate image segment bias physicalOffset range.2
            ((range.2.toNat - range.1.toNat) / 4096 + 1) range.1 pages
        loadSegments allocate image bias physicalOffset rest more

def loadAt
    (allocate : Allocate κ)
    (image : Image)
    (physicalOffset bias : UInt64) :
    Kernel κ Error Loaded := do
  let indexes := List.range image.header.phnum.toNat
  let scan ←
    Prog.ofExcept
      (scanSegments image bias indexes ⟨0, 0xffffffffffffffff, 0⟩)
  if scan.segments = 0 then
    Prog.fail (.badHeader "ELF contains no PT_LOAD segments")
  else do
    let pages ← loadSegments allocate image bias physicalOffset indexes 0
    let entry ← Prog.ofExcept (addAddress image.header.entry bias)
    pure
      { entry
        bias
        start := scan.start
        stop := scan.stop
        segments := scan.segments
        pages }

end VibuxOS.Elf
