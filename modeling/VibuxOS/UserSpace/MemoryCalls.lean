import VibuxOS.Paging.OwnPages
import VibuxOS.Paging.UserCopy

namespace VibuxOS.UserSpace

open VibuxOS.Lib VibuxOS.Paging

/-!
# The memory calls of a program

`map_memory`, `change_protection`, `unmap_memory` and the calls `brk` and
`mremap` of `arch/x86_64/syscall.rs`, over the tables that are in force and the
two numbers of the state that say what the program has been given so far.

A program runs only after its allocator was installed.  Sums of addresses wrap
around, as they do in the profiles that the kernel is built with.  What a
descriptor number stands for is a parameter.
-/

def enomem : UInt64 := 12

def ebadf : UInt64 := 9

def enodev : UInt64 := 19

def protRead : UInt64 := 1

def protWrite : UInt64 := 2

def protExec : UInt64 := 4

def mapPrivate : UInt64 := 2

def mapType : UInt64 := 0x0f

def mapFixed : UInt64 := 0x10

def mapAnonymous : UInt64 := 0x20

def mremapMaymove : UInt64 := 1

def mremapFixed : UInt64 := 2

def mmapBase : UInt64 := 0x0000600000000000

def heapBase : UInt64 := 0x0000700000000000

/-- The tables, and `next_mmap` and `brk` of the state. -/
structure Space (κ : Type) where
  machine : Machine κ
  nextMmap : UInt64
  brk : UInt64

/-- A call leaves through the error exit with the number that it returns. -/
abbrev Call (κ : Type) := Prog (Space κ) UInt64

variable {κ ε α : Type}

/-- A program over the tables. -/
def onMachine (program : Kernel κ ε α) : Prog (Space κ) ε α :=
  Prog.onPart Space.machine
    (fun machine space => { space with machine := machine }) program

/-! ## Pages -/

/-- A value up to the next page. -/
def roundUp (value : UInt64) : UInt64 :=
  (value + (pageSize - 1)) &&& ~~~(pageSize - 1)

/-- More turns than a range of a length has pages. -/
def turns (length : UInt64) : Nat :=
  length.toNat / 4096 + 1

/-- `while page < stop`, with `page += PAGE_SIZE` in the end -/
def forPages
    (body : UInt64 → Kernel κ ε Unit)
    (stop : UInt64) :
    Nat → UInt64 → Kernel κ ε Unit
  | 0, _ => Prog.hang
  | fuel + 1, page =>
      if page < stop then do
        body page
        forPages body stop fuel (page + pageSize)
      else
        pure ()

def pageFlags (prot : UInt64) : PageFlags :=
  let flags := PageFlags.user
  let flags :=
    if prot &&& protWrite != 0 then flags.union .writable else flags
  if prot &&& protExec == 0 then flags.union .noExecute else flags

/-- A frame from the allocator, mapped, zeroed and filled. -/
def newPage
    (allocate : Allocate κ)
    (page : UInt64)
    (flags : PageFlags)
    (fill : UInt64 → Kernel κ UInt64 Unit) :
    Kernel κ UInt64 Unit := do
  match ← allocateFrame allocate with
  | none => Prog.fail (negErrno enomem)
  | some frame => do
      Prog.mapError (fun _ => negErrno enomem)
        (map4k allocate page frame flags)
      zeroFrame frame
      fill frame

/-! ## `mmap` -/

/-- What a descriptor stands for, as far as `map_memory` asks. -/
inductive Backing where
  | file (data : Option (List UInt8))
  | other

/-- The descriptors that `fd_snapshot` finds -/
abbrev Backings := Int → Option Backing

/-- The bytes of a file from an offset on, as far as they fit in the page. -/
def copyFile
    (fileData : Option (List UInt8))
    (fileOffset frame : UInt64) :
    Kernel κ UInt64 Unit :=
  match fileData with
  | none => pure ()
  | some data =>
      if fileOffset.toNat < data.length then
        copyIntoFrame frame 0 ((data.drop fileOffset.toNat).take 4096)
      else
        pure ()

/-- One turn of the second loop of `map_with_runtime_allocator` -/
def placePage
    (allocate : Allocate κ)
    (fixed : Bool)
    (flags : PageFlags)
    (fileData : Option (List UInt8))
    (fileOffset page : UInt64) :
    Kernel κ UInt64 Unit := do
  let found ← Prog.gets fun machine =>
    translate machine.memory machine.cr3 page
  if found.isSome then
    if fixed then do
      let _ ← Prog.mapError (fun _ => negErrno enomem) (unmap4k page)
      newPage allocate page flags (copyFile fileData fileOffset)
    else
      Prog.fail (negErrno enomem)
  else
    newPage allocate page flags (copyFile fileData fileOffset)

/-- No page of a range is mapped. -/
def rangeFree
    (machine : Machine κ)
    (stop : UInt64) :
    Nat → UInt64 → Bool
  | 0, _ => true
  | fuel + 1, page =>
      if page < stop then
        (translate machine.memory machine.cr3 page).isNone &&
          rangeFree machine stop fuel (page + pageSize)
      else
        true

/-- The first loop of `map_with_runtime_allocator` -/
def findRange (length : UInt64) : Nat → UInt64 → Call κ UInt64
  | 0, _ => Prog.hang
  | rounds + 1, candidate => do
      let free ← Prog.gets fun space =>
        rangeFree space.machine (candidate + length) (turns length) candidate
      if free then
        pure candidate
      else do
        let next ← Prog.gets Space.nextMmap
        if userLimit ≤ next then
          Prog.fail (negErrno enomem)
        else do
          Prog.modify fun space =>
            { space with
              nextMmap := (checkedAdd next length).getD userLimit }
          findRange length rounds (pageOf next)

/-- Every round of that loop but the first takes a page from the range. -/
def rounds : Nat := userLimit.toNat / 4096 + 2

/-- `actual_target` of `map_with_runtime_allocator` -/
def actualTarget (target length flags : UInt64) : Call κ UInt64 :=
  if flags &&& mapFixed != 0 then
    pure target
  else
    findRange length rounds (pageOf target)

/-- The second loop of `map_with_runtime_allocator` -/
def placePages
    (allocate : Allocate κ)
    (first length prot flags offset : UInt64)
    (fileData : Option (List UInt8)) :
    Kernel κ UInt64 Unit :=
  forPages
    (fun page =>
      placePage allocate (flags &&& mapFixed != 0) (pageFlags prot) fileData
        (offset + (page - first)) page)
    (first + length) (turns length) first

def mapWithRuntimeAllocator
    (allocate : Allocate κ)
    (target length prot flags offset : UInt64)
    (fileData : Option (List UInt8)) :
    Call κ UInt64 := do
  let first ← actualTarget target length flags
  onMachine (placePages allocate first length prot flags offset fileData)
  pure first

/-- The address that `map_memory` asks for. -/
def requestedTarget (address length flags : UInt64) : Call κ UInt64 :=
  if flags &&& mapFixed != 0 then
    pure address
  else do
    let hint := pageOf address
    let nextMmap ← Prog.gets Space.nextMmap
    if hint != 0 then
      pure hint
    else do
      Prog.modify fun space =>
        { space with
          nextMmap := (checkedAdd nextMmap length).getD userLimit }
      pure nextMmap

/-- The file behind a mapping. -/
def backingOf
    (backings : Backings)
    (flags : UInt64)
    (fd : Int) :
    Except UInt64 (Option (List UInt8)) :=
  if flags &&& mapAnonymous != 0 then
    .ok none
  else if fd < 0 then
    .error (negErrno ebadf)
  else
    match backings fd with
    | some (.file data) => .ok data
    | some .other => .error (negErrno enodev)
    | none => .error (negErrno ebadf)

def mapMemory
    (allocate : Allocate κ)
    (backings : Backings)
    (address length prot flags : UInt64)
    (fd : Int)
    (offset : UInt64) :
    Call κ UInt64 :=
  if length = 0 then
    Prog.fail (negErrno einval)
  else if offset &&& (pageSize - 1) != 0 then
    Prog.fail (negErrno einval)
  else
    match (checkedAdd length (pageSize - 1)).map pageOf with
    | none => Prog.fail (negErrno einval)
    | some length => do
        let target ← requestedTarget address length flags
        if target &&& (pageSize - 1) != 0 then
          Prog.fail (negErrno einval)
        else
          match checkedAdd target length with
          | none => Prog.fail (negErrno enomem)
          | some stop =>
              if userLimit ≤ target ∨ userLimit < stop ∨ stop ≤ target then
                Prog.fail (negErrno enomem)
              else if flags &&& mapType = 0 then
                Prog.fail (negErrno einval)
              else do
                let fileData ← Prog.ofExcept (backingOf backings flags fd)
                mapWithRuntimeAllocator allocate target length prot flags
                  offset fileData

/-! ## `munmap` and `mprotect` -/

/-- A loop over the pages of a range, after the checks of both calls. -/
def overPages
    (body : UInt64 → Kernel κ UInt64 Unit)
    (address length : UInt64) :
    Call κ UInt64 :=
  if address &&& (pageSize - 1) != 0 then
    Prog.fail (negErrno einval)
  else
    match (checkedAdd length (pageSize - 1)).map pageOf with
    | none => Prog.fail (negErrno einval)
    | some length => do
        onMachine
          (forPages body (address + length) (turns length) address)
        pure 0

def changeProtection (address length prot : UInt64) : Call κ UInt64 :=
  overPages
    (fun page =>
      Prog.mapError (fun _ => negErrno enomem)
        (protect4k page (pageFlags prot)))
    address length

/-- A page of `unmap_memory` -/
def unmapPage (page : UInt64) : Kernel κ UInt64 Unit := do
  let _ ← Prog.mapError (fun _ => negErrno einval) (unmap4k page)
  pure ()

def unmapMemory (address length : UInt64) : Call κ UInt64 :=
  overPages unmapPage address length

/-! ## `brk` -/

/-- The flags of the pages of the heap and of the stack. -/
def dataFlags : PageFlags :=
  (PageFlags.user.union .writable).union .noExecute

/-- The loop of `brk` over the pages of the heap. -/
def growHeap (allocate : Allocate κ) (brk requested : UInt64) :
    Kernel κ UInt64 Unit :=
  forPages (fun page => newPage allocate page dataFlags fun _ => pure ())
    (roundUp requested) (turns (roundUp requested - roundUp brk))
    (roundUp brk)

/-- `brk` -/
def brkCall (allocate : Allocate κ) (requested : UInt64) : Call κ UInt64 := do
  let brk ← Prog.gets Space.brk
  if requested = 0 then
    pure brk
  else if brk < requested then do
    onMachine (growHeap allocate brk requested)
    Prog.modify fun space => { space with brk := requested }
    pure requested
  else do
    Prog.modify fun space => { space with brk := requested }
    pure requested

/-! ## `mremap` -/

/-- The words of all frames with the bytes of a copy. -/
def withBytes (memory : Memory) (bytes : UInt64 → UInt8) : Memory := fun slot =>
  if pageOf slot.frame = slot.frame ∧ slot.index < 512 then
    getU64 (fun offset => bytes (slot.frame + UInt64.ofNat offset))
      (8 * slot.index)
  else
    memory slot

/-- A copy to or from the pages of the program. -/
def copying (copy : AddressSpace → Copy Unit) : Kernel κ UInt64 (Nat → UInt8) :=
  fun machine =>
    match
      copy ⟨machine.memory, machine.cr3⟩
        (Copying.start (memoryByte machine.memory) fun _ => 0)
    with
    | .ok _ final =>
        .ok final.output
          { machine with memory := withBytes machine.memory final.bytes }
    | .err _ final =>
        .err (negErrno efault)
          { machine with memory := withBytes machine.memory final.bytes }
    | .hang => .hang

/-- The loop of `mremap` that copies from the old pages to the new ones. -/
def moveBytes (oldAddr mapped : UInt64) (copyLen : Nat) :
    Nat → Nat → Kernel κ UInt64 Unit
  | 0, _ => Prog.hang
  | fuel + 1, copied =>
      if copied < copyLen then do
        let amount := min 4096 (copyLen - copied)
        let buffer ← copying fun space =>
          copyUserIn space (oldAddr + UInt64.ofNat copied) amount
        let _ ← copying fun space =>
          copyUserOut space (mapped + UInt64.ofNat copied)
            ((List.range amount).map buffer)
        moveBytes oldAddr mapped copyLen fuel (copied + amount)
      else
        pure ()

/-- What a call returns, on either exit. -/
def returnValue : Except UInt64 UInt64 → UInt64
  | .ok value => value
  | .error code => code

def mremap
    (allocate : Allocate κ)
    (backings : Backings)
    (oldAddr oldSize newSize flags newAddress : UInt64) :
    Call κ UInt64 :=
  if oldSize = 0 ∨ newSize = 0 then
    Prog.fail (negErrno einval)
  else if newSize ≤ oldSize ∧ ¬ flags &&& mremapFixed ≠ 0 then
    pure oldAddr
  else if flags &&& mremapMaymove = 0 then
    Prog.fail (negErrno enomem)
  else do
    let target := if flags &&& mremapFixed ≠ 0 then newAddress else 0
    let result ←
      Prog.attempt
        (mapMemory allocate backings target newSize (protRead ||| protWrite)
          (mapPrivate ||| mapAnonymous |||
            if target ≠ 0 then mapFixed else 0)
          (-1) 0)
    let mapped := returnValue result
    if userLimit ≤ mapped then
      pure mapped
    else do
      let copyLen := (min oldSize newSize).toNat
      onMachine (moveBytes oldAddr mapped copyLen (copyLen + 1) 0)
      let _ ← Prog.attempt (unmapMemory oldAddr oldSize)
      pure mapped

end VibuxOS.UserSpace
