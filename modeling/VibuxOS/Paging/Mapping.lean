import Mathlib.Logic.Function.Basic
import VibuxOS.Lib.Prog
import VibuxOS.Paging.Tables

namespace VibuxOS.Paging

open VibuxOS.Lib

/-!
# Mapping and unmapping pages

`map_4k`, `unmap_4k` and `protect_4k` of `arch/x86_64/paging.rs`, as programs
over the tables that are in force and the state behind the callback that
allocates frames.
-/

inductive MapError where
  | nonCanonicalAddress
  | alreadyMapped
  | hugePageConflict
  | outOfMemory
  | invalidPhysicalAddress
  | kernelMapping
  deriving Repr, DecidableEq

inductive UnmapError where
  | nonCanonicalAddress
  | notMapped
  | hugePage
  deriving Repr, DecidableEq

/-- The tables that are in force, and what the callback allocates from. -/
structure Machine (κ : Type) where
  memory : Memory
  cr3 : UInt64
  supply : κ

abbrev Kernel (κ : Type) := Prog (Machine κ)

/-- A callback that allocates a frame. -/
abbrev Allocate (κ : Type) := κ → Option UInt64 × κ

variable {κ ε : Type}

/-- The table that `read_cr3` names. -/
def Machine.root (machine : Machine κ) : UInt64 :=
  machine.cr3 &&& entryAddrMask

/-- `read_volatile` of a slot -/
def readEntry (slot : TableSlot) : Kernel κ ε UInt64 :=
  Prog.gets fun machine => machine.memory slot

/-- Replace the entry of a slot. -/
def Machine.setEntry
    (slot : TableSlot)
    (entry : UInt64)
    (machine : Machine κ) :
    Machine κ :=
  { machine with memory := Function.update machine.memory slot entry }

@[simp] theorem Machine.memory_setEntry
    (slot : TableSlot)
    (entry : UInt64)
    (machine : Machine κ) :
    (machine.setEntry slot entry).memory =
      Function.update machine.memory slot entry :=
  rfl

@[simp] theorem Machine.cr3_setEntry
    (slot : TableSlot)
    (entry : UInt64)
    (machine : Machine κ) :
    (machine.setEntry slot entry).cr3 = machine.cr3 :=
  rfl

@[simp] theorem Machine.setEntry_setEntry
    (slot : TableSlot)
    (first second : UInt64)
    (machine : Machine κ) :
    (machine.setEntry slot first).setEntry slot second =
      machine.setEntry slot second := by
  rw [Machine.setEntry, Machine.memory_setEntry, Function.update_idem]
  rfl

/-- `write_volatile` of a slot -/
def writeEntry (slot : TableSlot) (entry : UInt64) : Kernel κ ε Unit :=
  Prog.modify (Machine.setEntry slot entry)

/-- Replace the words of a frame. -/
def Machine.fillFrame
    (frame : UInt64)
    (words : Nat → UInt64)
    (machine : Machine κ) :
    Machine κ :=
  { machine with
    memory := fun slot =>
      if slot.frame = frame then words slot.index else machine.memory slot }

/-- `zero_table`, and `write_bytes` of a whole page -/
def zeroFrame (frame : UInt64) : Kernel κ ε Unit :=
  Prog.modify (Machine.fillFrame frame fun _ => 0)

/-- A call of the callback -/
def allocateFrame (allocate : Allocate κ) : Kernel κ ε (Option UInt64) :=
  fun machine =>
    .ok (allocate machine.supply).1
      { machine with supply := (allocate machine.supply).2 }

def PageFlags.empty : PageFlags := ⟨0⟩

def PageFlags.present : PageFlags := ⟨Paging.present⟩

def PageFlags.writable : PageFlags := ⟨write⟩

def PageFlags.user : PageFlags := ⟨Paging.user⟩

def PageFlags.writeThrough : PageFlags := ⟨8⟩

def PageFlags.cacheDisable : PageFlags := ⟨0x10⟩

def PageFlags.global : PageFlags := ⟨0x100⟩

def PageFlags.noExecute : PageFlags := ⟨Paging.noExecute⟩

/-- The constants of `PageFlags` -/
def PageFlags.constants : List PageFlags :=
  [.present, .writable, .user, .writeThrough, .cacheDisable, .global,
    .noExecute]

/-- A new table for a slot of `map_4k` that is not present. -/
def newTable
    (allocate : Allocate κ)
    (slot : TableSlot)
    (userBit : UInt64) :
    Kernel κ MapError UInt64 := do
  match ← allocateFrame allocate with
  | none => Prog.fail .outOfMemory
  | some allocated =>
      let frame := allocated &&& entryAddrMask
      let entry := frame ||| present ||| write ||| userBit
      zeroFrame frame
      writeEntry slot entry
      pure entry

/-- The step of `map_4k` through the table of level 4. -/
def enterTop
    (allocate : Allocate κ)
    (slot : TableSlot)
    (isUser : Bool)
    (userBit : UInt64) :
    Kernel κ MapError UInt64 := do
  let e4 ← readEntry slot
  if e4 &&& present == 0 then
    newTable allocate slot userBit
  else if isUser && e4 &&& user == 0 then
    Prog.fail .kernelMapping
  else
    pure e4

/-- The step of `map_4k` through a table of level 3 or 2. -/
def enterTable
    (allocate : Allocate κ)
    (slot : TableSlot)
    (isUser : Bool)
    (userBit : UInt64) :
    Kernel κ MapError UInt64 := do
  let entry ← readEntry slot
  if entry &&& present != 0 && entry &&& huge != 0 then
    Prog.fail .hugePageConflict
  else if entry &&& present == 0 then
    newTable allocate slot userBit
  else if isUser && entry &&& user == 0 then do
    writeEntry slot (entry ||| user)
    pure (entry ||| user)
  else
    pure entry

def map4k
    (allocate : Allocate κ)
    (virtualAddress physicalAddress : UInt64)
    (flags : PageFlags) :
    Kernel κ MapError Unit :=
  if !canonical virtualAddress then
    Prog.fail .nonCanonicalAddress
  else if
      virtualAddress &&& (pageSize - 1) != 0 ||
        physicalAddress &&& (pageSize - 1) != 0 then
    Prog.fail .invalidPhysicalAddress
  else
    let isUser := flags.contains .user
    let userBit := if isUser then user else 0
    let leafBits := flags.bits ||| present
    if isUser && userLimit ≤ virtualAddress then
      Prog.fail .nonCanonicalAddress
    else do
      let l4 ← Prog.gets Machine.root
      let e4 ← enterTop allocate ⟨l4, indexes virtualAddress 4⟩ isUser userBit
      let l3 := e4 &&& entryAddrMask
      let e3 ← enterTable allocate ⟨l3, indexes virtualAddress 3⟩ isUser userBit
      let l2 := e3 &&& entryAddrMask
      let e2 ← enterTable allocate ⟨l2, indexes virtualAddress 2⟩ isUser userBit
      let l1 := e2 &&& entryAddrMask
      let e1 ← readEntry ⟨l1, indexes virtualAddress 1⟩
      if e1 &&& present != 0 then
        Prog.fail .alreadyMapped
      else
        writeEntry ⟨l1, indexes virtualAddress 1⟩
          ((physicalAddress &&& entryAddrMask) ||| leafBits)

def unmap4k (virtualAddress : UInt64) : Kernel κ UnmapError UInt64 :=
  if !canonical virtualAddress then
    Prog.fail .nonCanonicalAddress
  else if virtualAddress &&& (pageSize - 1) != 0 then
    Prog.fail .notMapped
  else do
    let l4 ← Prog.gets Machine.root
    let e4 ← readEntry ⟨l4, indexes virtualAddress 4⟩
    if e4 &&& present == 0 then
      Prog.fail .notMapped
    else do
      let l3 := e4 &&& entryAddrMask
      let e3 ← readEntry ⟨l3, indexes virtualAddress 3⟩
      if e3 &&& present == 0 || e3 &&& huge != 0 then
        Prog.fail (if e3 &&& huge != 0 then .hugePage else .notMapped)
      else do
        let l2 := e3 &&& entryAddrMask
        let e2 ← readEntry ⟨l2, indexes virtualAddress 2⟩
        if e2 &&& present == 0 || e2 &&& huge != 0 then
          Prog.fail (if e2 &&& huge != 0 then .hugePage else .notMapped)
        else do
          let l1 := e2 &&& entryAddrMask
          let old ← readEntry ⟨l1, indexes virtualAddress 1⟩
          if old &&& present == 0 then
            Prog.fail .notMapped
          else do
            writeEntry ⟨l1, indexes virtualAddress 1⟩ 0
            pure (old &&& entryAddrMask)

def protect4k
    (virtualAddress : UInt64)
    (flags : PageFlags) :
    Kernel κ MapError Unit :=
  if !canonical virtualAddress then
    Prog.fail .nonCanonicalAddress
  else if virtualAddress &&& (pageSize - 1) != 0 then
    Prog.fail .invalidPhysicalAddress
  else do
    let leafBits := flags.bits ||| present
    let l4 ← Prog.gets Machine.root
    let e4 ← readEntry ⟨l4, indexes virtualAddress 4⟩
    if e4 &&& present == 0 then
      Prog.fail .alreadyMapped
    else do
      let l3 := e4 &&& entryAddrMask
      let e3 ← readEntry ⟨l3, indexes virtualAddress 3⟩
      if e3 &&& present == 0 || e3 &&& huge != 0 then
        Prog.fail .hugePageConflict
      else do
        let l2 := e3 &&& entryAddrMask
        let e2 ← readEntry ⟨l2, indexes virtualAddress 2⟩
        if e2 &&& present == 0 || e2 &&& huge != 0 then
          Prog.fail .hugePageConflict
        else do
          let l1 := e2 &&& entryAddrMask
          let entry ← readEntry ⟨l1, indexes virtualAddress 1⟩
          if entry &&& present == 0 then
            Prog.fail .alreadyMapped
          else
            writeEntry ⟨l1, indexes virtualAddress 1⟩
              ((entry &&& entryAddrMask) ||| leafBits)

end VibuxOS.Paging
