import VibuxOS.Elf.Loader
import VibuxOS.Paging.PhysicalWrites

namespace VibuxOS.Elf

open VibuxOS.Lib
open VibuxOS.Paging

/-!
# The initial stack

`allocate_user_stack`, `StackBuilder` and what `exec_program` puts on the stack,
of `velf/runner.rs`.  The builder writes through the direct map: it looks up the
frame of an address once and goes on from there.
-/

def stackTop : UInt64 := 0x00007f0000000000

def stackPages : Nat := 64

def stackBottom : UInt64 :=
  stackTop - UInt64.ofNat stackPages * pageSize

def stackGuard : UInt64 :=
  stackBottom - pageSize

def stackFlags : PageFlags :=
  (PageFlags.user.union .writable).union .noExecute

variable {κ : Type}

/-- The loop of `allocate_user_stack` over the pages that are left. -/
def allocateStackPages
    (allocate : Allocate κ) :
    Nat → UInt64 → Kernel κ Error (List UInt64)
  | 0, _ => pure []
  | count + 1, page => do
      match ← allocateFrame allocate with
      | none => Prog.fail .outOfMemory
      | some frame => do
          Prog.mapError (fun _ => .mappingFailed)
            (map4k allocate page frame stackFlags)
          zeroFrame frame
          let rest ← allocateStackPages allocate count (page + pageSize)
          pure (frame :: rest)

def allocateUserStack
    (allocate : Allocate κ) :
    Kernel κ Error (List UInt64) := do
  let found ← Prog.gets fun machine =>
    translate machine.memory machine.cr3 stackGuard
  if found.isSome then
    Prog.fail .mappingFailed
  else
    allocateStackPages allocate stackPages stackBottom

/-! ## `StackBuilder` -/

/-- `StackBuilder`, with the memory that it writes to. -/
structure StackBuilder where
  frames : List UInt64
  sp : UInt64
  bottom : UInt64
  memory : Memory

def StackBuilder.new (frames : List UInt64) (memory : Memory) : StackBuilder where
  frames
  sp := stackTop
  bottom := stackBottom
  memory

/-- A method of the builder leaves through the error exit with `None`. -/
abbrev Building := Prog StackBuilder Unit

/-- The eight bytes of a number in memory -/
def wordBytes (value : UInt64) : List UInt8 :=
  (List.range 8).map (leByte value)

/-- A write through a pointer of the direct map -/
def writeAt (pointer : Nat) (bytes : List UInt8) : Building Unit :=
  Prog.modify fun builder =>
    { builder with memory := writePhysical builder.memory pointer bytes }

def ptrAt (userAddr : UInt64) : Building UInt64 := do
  let builder ← Prog.gets id
  let offsetInStack := userAddr - builder.bottom
  match builder.frames[(offsetInStack / pageSize).toNat]? with
  | none => Prog.hang
  | some phys => pure (phys + offsetInStack % pageSize)

def reserve (size : Nat) (alignment : UInt64) : Building UInt64 :=
  if alignment = 0 ∨ alignment &&& (alignment - 1) ≠ 0 then
    Prog.fail ()
  else do
    let builder ← Prog.gets id
    match checkedSub builder.sp (UInt64.ofNat size) with
    | none => Prog.fail ()
    | some raw =>
        let aligned := raw &&& ~~~(alignment - 1)
        if aligned < builder.bottom then
          Prog.fail ()
        else do
          Prog.modify fun builder => { builder with sp := aligned }
          pure aligned

def putBytes (bytes : List UInt8) : Building UInt64 := do
  let address ← reserve (bytes.length + 1) 1
  let pointer ← ptrAt address
  writeAt pointer.toNat bytes
  let pointer ← ptrAt address
  writeAt (pointer.toNat + bytes.length) [0]
  pure address

def putU64 (value : UInt64) : Building UInt64 := do
  let address ← reserve 8 8
  let pointer ← ptrAt address
  writeAt pointer.toNat (wordBytes value)
  pure address

def alignBeforeBlock (blockSize : Nat) : Building Unit := do
  let builder ← Prog.gets id
  match checkedSub builder.sp (UInt64.ofNat blockSize) with
  | none => Prog.fail ()
  | some future =>
      -- without padding the difference is the stack pointer itself
      match checkedSub builder.sp (future &&& 0xf) with
      | none => Prog.fail ()
      | some sp => do
          Prog.modify fun builder => { builder with sp }
          if sp < builder.bottom then
            Prog.fail ()
          else
            pure ()

/-- The loop of `push_block` -/
def putWords : List UInt64 → Building Unit
  | [] => pure ()
  | value :: rest => do
      let _ ← putU64 value
      putWords rest

def pushBlock (entries : List UInt64) : Building UInt64 :=
  if 2 ^ 64 ≤ entries.length * 8 then
    Prog.fail ()
  else do
    alignBeforeBlock (entries.length * 8)
    putWords entries.reverse
    Prog.gets StackBuilder.sp

/-! ## `exec_program` -/

/-- `random_seed`, of what the counter of the processor shows -/
def randomSeed (counter : UInt64) : List UInt8 :=
  let rotated := (counter <<< 29) ||| (counter >>> 35)
  wordBytes counter ++ wordBytes (rotated ^^^ 0x9e3779b97f4a7c15)

def platformName : List UInt8 :=
  [120, 56, 54, 95, 54, 52]

/-- The loop over the strings of a vector -/
def putStrings : List (List UInt8) → Building (List UInt64)
  | [] => pure []
  | text :: rest => do
      let pointer ← putBytes text
      let pointers ← putStrings rest
      pure (pointer :: pointers)

def auxv
    (main rtld : Loaded)
    (header : Header)
    (phdr platform randomAddr execfn : UInt64) :
    List (UInt64 × UInt64) :=
  [(3, phdr),
    (4, header.phentsize.toUInt64),
    (5, header.phnum.toUInt64),
    (6, pageSize),
    (7, rtld.bias),
    (9, main.entry),
    (11, 1000),
    (12, 1000),
    (13, 1000),
    (14, 1000),
    (15, platform),
    (16, 0),
    (17, 250),
    (23, 0),
    (25, randomAddr),
    (26, 0),
    (31, execfn),
    (0, 0)]

/-- `entries` -/
def stackEntries
    (argvPtrs envPtrs : List UInt64)
    (auxiliary : List (UInt64 × UInt64)) :
    List UInt64 :=
  UInt64.ofNat argvPtrs.length :: argvPtrs ++ 0 :: envPtrs ++ 0 ::
    auxiliary.flatMap fun pair => [pair.1, pair.2]

/-- `ok_or(12)` -/
def orOutOfMemory {α : Type} (program : Building α) : Prog StackBuilder UInt64 α :=
  Prog.mapError (fun _ => 12) program

/-- The part of `exec_program` that fills the stack, up to the stack pointer -/
def fillStack
    (main rtld : Loaded)
    (header : Header)
    (counter : UInt64)
    (path : List UInt8)
    (argv envp : List (List UInt8)) :
    Prog StackBuilder UInt64 UInt64 := do
  let execfn ← orOutOfMemory (putBytes path)
  let platform ← orOutOfMemory (putBytes platformName)
  let randomAddr ← orOutOfMemory (reserve 16 16)
  let pointer ← orOutOfMemory (ptrAt randomAddr)
  orOutOfMemory (writeAt pointer.toNat (randomSeed counter))
  let argvPtrs ← orOutOfMemory (putStrings (argv.take 32))
  let envPtrs ← orOutOfMemory (putStrings (envp.take 32))
  match checkedAdd main.bias header.phoff with
  | none => Prog.fail 8
  | some phdr =>
      let auxiliary := auxv main rtld header phdr platform randomAddr execfn
      let entries := stackEntries argvPtrs envPtrs auxiliary
      if 128 < entries.length then
        -- the array of the entries has no place for more
        Prog.hang
      else if
          entries.length ≠
            1 + argvPtrs.length + 1 + envPtrs.length + 1 +
              auxiliary.length * 2 then
        Prog.fail 8
      else
        orOutOfMemory (pushBlock entries)

end VibuxOS.Elf
