import Mathlib.Data.Finset.Card
import VibuxOS.Files.RamFiles
import VibuxOS.Lib.Simulation

namespace VibuxOS.Files

open VibuxOS.Lib

/-!
# Files as byte arrays

What RAM files are for: a path names an array of at most `RAM_FILE_CAPACITY`
bytes, and descriptors have positions in it.  The calls on RAM files with mapped
buffers are specified on such files.
-/

/-- An array of at most `RAM_FILE_CAPACITY` bytes. -/
structure ByteFile where
  bytes : List UInt8
  fits : bytes.length ≤ ramFileCapacity

namespace ByteFile

/-- A new file. -/
def empty : ByteFile :=
  ⟨[], Nat.zero_le _⟩

/-- The bytes from a position on. -/
def read (file : ByteFile) (position count : Nat) : List UInt8 :=
  (file.bytes.drop position).take count

/-- Cut the file, or fill it up with zeros. -/
def truncate
    (file : ByteFile)
    (size : Nat)
    (fits : size ≤ ramFileCapacity) :
    ByteFile :=
  ⟨resize 0 file.bytes size, by rwa [length_resize]⟩

/-- Put bytes at a position, behind zeros when it is past the end. -/
def write
    (file : ByteFile)
    (position : Nat)
    (bytes : List UInt8)
    (fits : position + bytes.length ≤ ramFileCapacity) :
    ByteFile :=
  ⟨overwrite 0 file.bytes position bytes, by
    rw [length_overwrite]
    exact Nat.max_le.mpr ⟨file.fits, fits⟩⟩

end ByteFile

/-- Files by their paths, how many more there may be, and the descriptors. -/
structure ByteFiles where
  files : List UInt8 → Option ByteFile
  room : Nat
  initialized : Bool
  fds : Nat → Fd

namespace ByteFiles

/-- No files, and no descriptors. -/
def new : ByteFiles where
  files := fun _ => none
  room := ramFileMax
  initialized := false
  fds := fun _ => Fd.empty

/-- Calls on files that are byte arrays. -/
abbrev Sys := Prog ByteFiles Errno

/-- Put a descriptor at an index. -/
def setFd (index : Nat) (fd : Fd) (state : ByteFiles) : ByteFiles :=
  { state with fds := Function.update state.fds index fd }

/-- Move the position of a descriptor. -/
def setPosition (index position : Nat) (state : ByteFiles) : ByteFiles :=
  state.setFd index
    { state.fds index with position := UInt64.ofNat position }

/-- Let a path name a file. -/
def setFile
    (path : List UInt8)
    (file : ByteFile)
    (state : ByteFiles) :
    ByteFiles :=
  { state with files := Function.update state.files path (some file) }

def fdSnapshot (fdNumber : Int) : Sys Fd :=
  if fdNumber < 0 ∨ fdNumber ≥ Syscall.fileFdMax then
    Prog.fail .ebadf
  else do
    let fd ← Prog.gets fun state => state.fds fdNumber.toNat
    if fd.used then
      pure fd
    else
      Prog.fail .ebadf

theorem fdSnapshot_of_open
    {state : ByteFiles}
    {fdNumber : Int}
    (isOpen : OpenFd state.fds fdNumber) :
    fdSnapshot fdNumber state = .ok (state.fds fdNumber.toNat) state := by
  obtain ⟨nonnegative, inTable, used⟩ := isOpen
  have inside : ¬ (fdNumber < 0 ∨ fdNumber ≥ Syscall.fileFdMax) := by
    omega
  unfold fdSnapshot
  rw [if_neg inside, Prog.gets_bind_apply, if_pos used]
  rfl

theorem fdSnapshot_of_not_open
    {state : ByteFiles}
    {fdNumber : Int}
    (closed : ¬ OpenFd state.fds fdNumber) :
    fdSnapshot fdNumber state = .err .ebadf state := by
  unfold fdSnapshot
  by_cases outside : fdNumber < 0 ∨ fdNumber ≥ Syscall.fileFdMax
  · rw [if_pos outside]
    rfl
  · rw [if_neg outside, Prog.gets_bind_apply, if_neg]
    · rfl
    · intro used
      exact closed ⟨by omega, by omega, used⟩

def allocFd (fd : Fd) : Sys Nat := do
  let free ← Prog.gets fun state => freeFd state.fds
  match free with
  | some index => do
      Prog.modify (setFd index fd)
      pure index
  | none => Prog.fail .emfile

def init : Sys Unit :=
  Prog.modify fun state =>
    if state.initialized then
      state
    else
      { state with
        initialized := true
        fds := fun index => if index < 3 then stdFd index else state.fds index }

/-- Open a file, or create it. -/
def openPath (path : List UInt8) (flags : UInt64) : Sys Nat := do
  init
  let state ← Prog.gets id
  match state.files path with
  | some _ =>
      if flags &&& oExcl ≠ 0 ∧ flags &&& oCreat ≠ 0 then
        Prog.fail .eexist
      else if flags &&& oTrunc ≠ 0 ∧ opensWritable flags then do
        Prog.modify (setFile path ByteFile.empty)
        allocFd (opened .ramFile flags path)
      else
        allocFd (opened .ramFile flags path)
  | none =>
      if flags &&& oCreat = 0 then
        Prog.fail .enoent
      else if path = [] ∨ path.length > 160 ∨ state.room = 0 then
        Prog.fail .enospc
      else do
        Prog.modify fun state =>
          { state.setFile path ByteFile.empty with room := state.room - 1 }
        allocFd (opened .ramFile flags path)

/-- Read the bytes at the position of a descriptor. -/
def readFd (fdNumber : Int) (count : Nat) : Sys (List UInt8) :=
  if fdNumber < 0 ∨ fdNumber ≥ Syscall.fileFdMax then
    Prog.fail .ebadf
  else if count = 0 then
    pure []
  else do
    let fd ← fdSnapshot fdNumber
    if fdReadable fd = false then
      Prog.fail .ebadf
    else do
      let state ← Prog.gets id
      match state.files fd.path with
      | none => Prog.fail .enoent
      | some file =>
          let bytes := file.read fd.position.toNat count
          if bytes = [] then
            pure []
          else do
            Prog.modify
              (setPosition fdNumber.toNat
                (fd.position.toNat + bytes.length))
            pure bytes

/-- Where a write to a file of some size starts. -/
def writeStart (fd : Fd) (size : Nat) : Nat :=
  if fd.flags &&& oAppend ≠ 0 then size else fd.position.toNat

/-- Write bytes at the position of a descriptor, or at the end. -/
def writeFd (fdNumber : Int) (source : List UInt8) : Sys Nat :=
  if fdNumber < 0 ∨ fdNumber ≥ Syscall.fileFdMax then
    Prog.fail .ebadf
  else if source = [] then
    pure 0
  else do
    let fd ← fdSnapshot fdNumber
    if fdWritable fd = false then
      Prog.fail .ebadf
    else do
      let state ← Prog.gets id
      match state.files fd.path with
      | none => Prog.fail .enoent
      | some file =>
          let position := writeStart fd file.bytes.length
          let bytes := source.take (ramFileCapacity - position)
          if fits : position + bytes.length ≤ ramFileCapacity ∧ bytes ≠ [] then do
            Prog.modify (setFile fd.path (file.write position bytes fits.1))
            Prog.modify
              (setPosition fdNumber.toNat (position + bytes.length))
            pure bytes.length
          else
            Prog.fail .enospc

/-- Move the position of a descriptor. -/
def lseek (fdNumber : Int) (offset : UInt64) (whence : Int) : Sys UInt64 := do
  let fd ← fdSnapshot fdNumber
  let state ← Prog.gets id
  let size : Nat :=
    ((state.files fd.path).map fun file => file.bytes.length).getD 0
  match seekTarget (asI64 fd.position) size (asI64 offset) whence with
  | none => Prog.fail .einval
  | some next =>
      if next < 0 then
        Prog.fail .einval
      else do
        Prog.modify (setPosition fdNumber.toNat next.toNat)
        pure (UInt64.ofNat next.toNat)

/-- Cut a file, or fill it up with zeros. -/
def truncate (path : List UInt8) (size : Nat) : Sys Unit := do
  let state ← Prog.gets id
  match state.files path with
  | none => Prog.fail .enoent
  | some file =>
      if fits : size ≤ ramFileCapacity then
        Prog.modify (setFile path (file.truncate size fits))
      else
        Prog.fail .efbig

def ftruncate (fdNumber : Int) (size : Nat) : Sys Unit := do
  let fd ← fdSnapshot fdNumber
  truncate fd.path size

end ByteFiles

/-! ## Calls -/

/-- A call on files, and what it finds around it. -/
inductive Call where
  | openPath (world : World) (path : List UInt8) (flags : UInt64)
  | readFd (world : World) (fdNumber : Int) (count : Nat)
  | writeFd (world : World) (fdNumber : Int) (count : Nat)
  | lseek (world : World) (fdNumber : Int) (offset : UInt64) (whence : Int)
  | ftruncate (fdNumber : Int) (size : Nat)
  | truncate (path : List UInt8) (size : Nat)

/-- What a call returns. -/
inductive Answer where
  | fd (number : Nat)
  | bytes (delivered : List UInt8)
  | count (amount : Nat)
  | position (offset : UInt64)
  | done

namespace Call

def run : Call → Sys Answer
  | openPath world path flags => do
      let number ← Files.openPath world path flags
      pure (.fd number)
  | readFd world fdNumber count => do
      let delivered ← Files.readFd world fdNumber count
      pure (.bytes delivered)
  | writeFd world fdNumber count => do
      let amount ← Files.writeFd world fdNumber count
      pure (.count amount)
  | lseek world fdNumber offset whence => do
      let position ← Files.lseek world fdNumber offset whence
      pure (.position position)
  | ftruncate fdNumber size => do
      Files.ftruncate fdNumber size
      pure .done
  | truncate path size => do
      Files.ramFileTruncate path size
      pure .done

def specification : Call → ByteFiles.Sys Answer
  | openPath _ path flags => do
      let number ← ByteFiles.openPath path flags
      pure (.fd number)
  | readFd _ fdNumber count => do
      let delivered ← ByteFiles.readFd fdNumber count
      pure (.bytes delivered)
  | writeFd world fdNumber count => do
      let amount ←
        ByteFiles.writeFd fdNumber (window world.source 0 count)
      pure (.count amount)
  | lseek _ fdNumber offset whence => do
      let position ← ByteFiles.lseek fdNumber offset whence
      pure (.position position)
  | ftruncate fdNumber size => do
      ByteFiles.ftruncate fdNumber size
      pure .done
  | truncate path size => do
      ByteFiles.truncate path size
      pure .done

end Call

/-! ## What a state stands for -/

/-- The bytes that the RAM file of a path shows. -/
def contentsAt (state : State) (path : List UInt8) : Option (List UInt8) :=
  (ramFileIndex state path).map fun index =>
    window (state.ramFiles index).data 0 (state.ramFiles index).len

/-- The unused entries of `RAM_FILES`. -/
def freeSlots (state : State) : Finset Nat :=
  (Finset.range ramFileMax).filter fun index =>
    (state.ramFiles index).used = false

/-- The RAM files and descriptors of a state are these. -/
structure Represents (state : State) (files : ByteFiles) : Prop where
  contents :
    ∀ path, contentsAt state path = (files.files path).map ByteFile.bytes
  room : (freeSlots state).card = files.room
  initialized : state.initialized = files.initialized
  fds : state.fds = files.fds

/-- A descriptor number that is not in use, or one of a RAM file. -/
def RamDescriptor (state : State) (fdNumber : Int) : Prop :=
  OpenFd state.fds fdNumber →
    (state.fds fdNumber.toNat).kind = .ramFile

/-- A path that is not taken by something else than a RAM file. -/
def RamPath (world : World) (state : State) (path : List UInt8) : Prop :=
  isDirectory path = false ∧
    devicePath path = none ∧
    (ramFileIndex state path = none →
      world.binary path = none ∧ world.text path = none)

/-- Every byte at the address of the call can be copied. -/
def Mapped (world : World) : Prop :=
  ∀ offset len, world.copied offset len = true

/-- A call on a RAM file whose buffer is mapped. -/
def Call.OnRamFile (call : Call) (state : State) : Prop :=
  match call with
  | openPath world path _ => RamPath world state path
  | readFd world fdNumber _ => Mapped world ∧ RamDescriptor state fdNumber
  | writeFd world fdNumber _ => Mapped world ∧ RamDescriptor state fdNumber
  | lseek _ fdNumber _ _ => RamDescriptor state fdNumber
  | ftruncate fdNumber _ => RamDescriptor state fdNumber
  | truncate _ _ => True

end VibuxOS.Files
