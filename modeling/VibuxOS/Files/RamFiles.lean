import VibuxOS.Files.Descriptors

namespace VibuxOS.Files

open VibuxOS.Lib

/-!
# Opening, writing, seeking and truncating

`open_path`, `write_fd` and the calls `lseek`, `truncate` and `ftruncate` of
`arch/x86_64/syscall.rs`.  The bytes of a write are those that the world has at
the address of the call.  What is written to the terminal leaves the model.
-/

def oCreat : UInt64 := 0x40

def oExcl : UInt64 := 0x80

def oTrunc : UInt64 := 0x200

def oAppend : UInt64 := 0x400

/-- The bytes of a text. -/
def ascii (text : List Char) : List UInt8 :=
  text.map fun letter => UInt8.ofNat letter.toNat

namespace State

def setRamFile (index : Nat) (file : RamFile) (state : State) : State :=
  { state with ramFiles := Function.update state.ramFiles index file }

/-- Put bytes into a pipe buffer. -/
def putPipe
    (id : Nat)
    (source : Nat → UInt8)
    (amount : Nat)
    (state : State) :
    State :=
  { state with
    pipeBuffers :=
      Function.update state.pipeBuffers id
        ((state.pipeBuffers id).put source amount) }

end State

/-- The first free index from 3 on, if any. -/
def freeFd (fds : Nat → Fd) : Option Nat :=
  (List.range' 3 (Syscall.fileFdMax - 3)).find? fun index =>
    !(fds index).used

/-- `alloc_fd`, with the error that its callers give. -/
def allocFd (fd : Fd) : Sys Nat := do
  let free ← Prog.gets fun state => freeFd state.fds
  match free with
  | some index => do
      Prog.modify (State.setFd index fd)
      pure index
  | none => Prog.fail .emfile

/-- A descriptor of a terminal, as `init` makes them. -/
def stdFd (index : Nat) : Fd where
  used := true
  kind := .tty
  flags := if index = 0 then Syscall.oRdonly else Syscall.oWronly
  position := 0
  path := List.replicate 8 0

def init : Sys Unit :=
  Prog.modify fun state =>
    if state.initialized then
      state
    else
      { state with
        initialized := true
        fds := fun index => if index < 3 then stdFd index else state.fds index
        cwd := ascii ['/', 'h', 'o', 'm', 'e', '/', 'b', 'o', 'i'] }

/-! ## Opening -/

def isDirectoryPath (path : List UInt8) : Bool :=
  [['/'],
    ['/', 'h', 'o', 'm', 'e'],
    ['/', 'h', 'o', 'm', 'e', '/', 'b', 'o', 'i'],
    ['/', 't', 'm', 'p'],
    ['/', 'e', 't', 'c'],
    ['/', 'u', 's', 'r'],
    ['/', 'v', 'a', 'r'],
    ['/', 'b', 'i', 'n'],
    ['/', 'd', 'e', 'v'],
    ['/', 'p', 'r', 'o', 'c'],
    ['/', 'p', 'r', 'o', 'c', '/', 's', 'e', 'l', 'f'],
    ['/', 'p', 'r', 'o', 'c', '/', '1'],
    ['/', 'r', 'o', 'o', 't'],
    ['/', 's', 'y', 's'],
    ['/', 'r', 'u', 'n']].any fun directory => path == ascii directory

/-- The paths of devices, with the kind and the path of their descriptors. -/
def devicePaths : List (List Char × FileKind × List Char) :=
  [(['/', 'd', 'e', 'v', '/', 'n', 'u', 'l', 'l'], .null, []),
    (['/', 'd', 'e', 'v', '/', 'z', 'e', 'r', 'o'], .zero, []),
    (['/', 'd', 'e', 'v', '/', 'n', 'v', 'm', 'e', '0', 'n', '1'], .block, []),
    (['/', 'd', 'e', 'v', '/', 't', 't', 'y'], .tty, []),
    (['/', 'd', 'e', 'v', '/', 'c', 'o', 'n', 's', 'o', 'l', 'e'], .tty, []),
    (['/', 'd', 'e', 'v', '/', 's', 't', 'd', 'i', 'n'], .tty, []),
    (['/', 'd', 'e', 'v', '/', 's', 't', 'd', 'o', 'u', 't'], .tty, []),
    (['/', 'd', 'e', 'v', '/', 's', 't', 'd', 'e', 'r', 'r'], .tty, []),
    (['/', 'd', 'e', 'v', '/', 'r', 'a', 'n', 'd', 'o', 'm'], .zero, []),
    (['/', 'd', 'e', 'v', '/', 'u', 'r', 'a', 'n', 'd', 'o', 'm'], .zero, []),
    (['/', 'p', 'r', 'o', 'c', '/', 's', 'e', 'l', 'f', '/', 'e', 'x', 'e'],
      .binary, ['/', 'b', 'i', 'n', '/', 'b', 'a', 's', 'h']),
    (['/', 'p', 'r', 'o', 'c', '/', '1', '/', 'e', 'x', 'e'],
      .binary, ['/', 'b', 'i', 'n', '/', 'b', 'a', 's', 'h'])]

/-- The kind and the path of the descriptor for a device, if it is one. -/
def devicePath (path : List UInt8) : Option (FileKind × List UInt8) :=
  (devicePaths.find? fun device => path == ascii device.1).map fun device =>
    (device.2.1, ascii device.2.2)

/-- A directory that `open_path` opens as a text. -/
def isDirectory (path : List UInt8) : Bool :=
  path == ascii ['.'] || path == ascii ['.', '.'] || isDirectoryPath path

/-- A descriptor that is just opened. -/
def opened (kind : FileKind) (flags : UInt64) (path : List UInt8) : Fd where
  used := true
  kind := kind
  flags := flags
  position := 0
  path := path

/-- The first unused entry of `RAM_FILES`. -/
def unusedRamFile (state : State) : Option Nat :=
  (List.range ramFileMax).find? fun index => !(state.ramFiles index).used

/-- `ram_file_create`, with the error that its caller gives. -/
def ramFileCreate (path : List UInt8) (mode : UInt32) : Sys Nat :=
  if path = [] ∨ path.length > 160 then
    Prog.fail .enospc
  else do
    let unused ← Prog.gets unusedRamFile
    match unused with
    | some index => do
        Prog.modify
          (State.setRamFile index
            { RamFile.empty with used := true, mode := mode, path := path })
        pure index
    | none => Prog.fail .enospc

def ramFileOpenFd (index : Nat) (flags : UInt64) : Sys Nat := do
  let path ← Prog.gets fun state => (state.ramFiles index).path
  allocFd (opened .ramFile flags path)

def opensWritable (flags : UInt64) : Bool :=
  flags &&& (Syscall.oWronly ||| Syscall.oRdwr) != 0

/-- The mode of a file that `open_path` creates. -/
def createMode (flags : UInt64) : UInt32 :=
  let mode := (0o100000 : UInt32) ||| ((0o777 : UInt32) &&& (flags >>> 6).toUInt32)
  if mode &&& 0o777 = 0 then 0o100644 else mode

/-- The branch of `open_path` for an existing RAM file. -/
def openRamFile (index : Nat) (flags : UInt64) : Sys Nat :=
  if flags &&& oExcl ≠ 0 ∧ flags &&& oCreat ≠ 0 then
    Prog.fail .eexist
  else if flags &&& oTrunc ≠ 0 ∧ opensWritable flags then do
    Prog.modify fun state =>
      state.setRamFile index { state.ramFiles index with len := 0 }
    ramFileOpenFd index flags
  else
    ramFileOpenFd index flags

/-- The last branch of `open_path`. -/
def createRamFile (path : List UInt8) (flags : UInt64) : Sys Nat :=
  if flags &&& oCreat ≠ 0 then do
    let index ← ramFileCreate path (createMode flags)
    ramFileOpenFd index flags
  else
    Prog.fail .enoent

def openPath
    (world : World)
    (path : List UInt8)
    (flags : UInt64) :
    Sys Nat := do
  init
  let state ← Prog.gets id
  if isDirectory path then
    if flags &&& Syscall.oWronly ≠ 0 ∧ flags &&& Syscall.oRdwr = 0 then
      Prog.fail .eisdir
    else
      let effective :=
        if path = ascii ['.'] then
          state.cwd
        else if path = ascii ['.', '.'] then
          ascii ['/']
        else
          path
      allocFd (opened .text flags (effective.take 160))
  else
    match devicePath path with
    | some (kind, stored) => allocFd (opened kind flags stored)
    | none =>
        match ramFileIndex state path with
        | some index => openRamFile index flags
        | none =>
            match world.binary path with
            | some binary =>
                if opensWritable flags ∧ flags &&& oTrunc ≠ 0 then
                  Prog.fail .erofs
                else
                  allocFd (opened .binary flags (binary.path.take 160))
            | none =>
                if (world.text path).isSome then
                  if opensWritable flags then
                    Prog.fail .erofs
                  else
                    allocFd (opened .text flags (path.take 160))
                else
                  createRamFile path flags

/-! ## Writing -/

def fdWritable (fd : Fd) : Bool :=
  fd.flags &&& Syscall.oAccmode != Syscall.oRdonly

/-- `copy_user_in` of bytes at an offset from the address of the call -/
def copyUserIn (world : World) (offset len : Nat) : Sys (List UInt8) :=
  if world.copied offset len then
    pure (window world.source offset len)
  else
    Prog.fail .efault

def pipeHasReader (state : State) (id : Nat) : Bool :=
  (List.range Syscall.fileFdMax).any fun index =>
    (state.fds index).kind == .pipeRead &&
      (state.fds index).path.length == 1 && (state.fds index).id == id

/-- `pipe_write_fd`, after the check of the count. -/
def pipeWriteFd
    (world : World)
    (fdNumber : Int)
    (count : Nat) :
    Sys Nat := do
  let fd ← fdSnapshot fdNumber
  if fd.kind ≠ .pipeWrite ∨ fd.path.length ≠ 1 then
    Prog.fail .ebadf
  else do
    let state ← Prog.gets id
    match pipeAvailable state fd.id with
    | none => Prog.fail .ebadf
    | some available =>
        if pipeHasReader state fd.id = false then
          Prog.fail .epipe
        else if Syscall.pipeCapacity - available = 0 then
          Prog.fail .eagain
        else do
          let amount := min count (Syscall.pipeCapacity - available)
          let _ ← copyUserIn world 0 amount
          Prog.modify (State.putPipe fd.id world.source amount)
          pure amount

def socketWriteFd
    (world : World)
    (fdNumber : Int)
    (count : Nat) :
    Sys Nat := do
  let fd ← fdSnapshot fdNumber
  if fd.path.length ≠ 2 then
    Prog.fail .enotconn
  else do
    let state ← Prog.gets id
    match socketPipeFor state fd.id (fd.path.getD 1 0) true with
    | none => Prog.fail .enotconn
    | some slot =>
        let free := Syscall.pipeCapacity - (state.pipeBuffers slot).len
        if free = 0 then
          Prog.fail .eagain
        else do
          let amount := min count free
          let _ ← copyUserIn world 0 amount
          Prog.modify (State.putPipe slot world.source amount)
          pure amount

/-- The branch of `write_fd` for event counters. -/
def eventFdWrite
    (world : World)
    (fd : Fd)
    (count : Nat) :
    Sys Nat :=
  if fd.id ≥ eventfdMax then
    Prog.hang
  else do
    let event ← Prog.gets fun state => state.eventFds fd.id
    if event.used = false then
      Prog.fail .ebadf
    else if count < 8 then
      Prog.fail .einval
    else do
      let _ ← copyUserIn world 0 8
      let value := getU64 world.source 0
      if value = 0xffffffffffffffff then
        Prog.fail .einval
      else if event.counter.toNat + value.toNat ≥ 2 ^ 64 then
        Prog.fail .eagain
      else do
        Prog.modify
          (State.setEventFd fd.id
            { event with counter := event.counter + value })
        pure 8

/-- The branch of `write_fd` for the terminal. -/
def ttyWrite (world : World) (count : Nat) : Sys Nat :=
  let done := chunksCopied world 1024 count count 0
  if done < count ∧ done = 0 then
    Prog.fail .efault
  else
    pure done

def ramFileWrite
    (world : World)
    (fdNumber : Int)
    (count : Nat) :
    Sys Nat := do
  let fd ← fdSnapshot fdNumber
  let state ← Prog.gets id
  match ramFileIndex state fd.path with
  | none => Prog.fail .enoent
  | some index =>
      let file := state.ramFiles index
      let position :=
        if fd.flags &&& oAppend ≠ 0 then file.len else fd.position.toNat
      if position ≥ ramFileCapacity ∧ count ≠ 0 then
        Prog.fail .enospc
      else
        let amount := min count (ramFileCapacity - position)
        if amount = 0 then
          pure 0
        else do
          -- the chunks that are copied are the first `done` bytes
          let done := chunksCopied world 4096 amount amount 0
          let data := blit file.data position world.source done
          if done < amount then do
            Prog.modify (State.setRamFile index { file with data := data })
            if done = 0 then
              Prog.fail .efault
            else
              pure done
          else do
            Prog.modify
              (State.setRamFile index
                { file with data := data, len := max file.len (position + done) })
            Prog.modify (State.setPosition fdNumber.toNat (position + done))
            pure done

/-- The branches of `write_fd` for the kinds of descriptors. -/
def writeKind
    (world : World)
    (fdNumber : Int)
    (fd : Fd)
    (count : Nat) :
    Sys Nat :=
  match fd.kind with
  | .pipeWrite => pipeWriteFd world fdNumber count
  | .socket => socketWriteFd world fdNumber count
  | .ramFile => ramFileWrite world fdNumber count
  | .eventFd => eventFdWrite world fd count
  | .tty => ttyWrite world count
  | .null => pure count
  | .binary => Prog.fail .erofs
  | .text => Prog.fail .erofs
  | _ => Prog.fail .ebadf

def writeFd
    (world : World)
    (fdNumber : Int)
    (count : Nat) :
    Sys Nat :=
  if fdNumber < 0 ∨ fdNumber ≥ Syscall.fileFdMax then
    Prog.fail .ebadf
  else if count = 0 then
    pure 0
  else do
    let fd ← fdSnapshot fdNumber
    if fdWritable fd = false ∧ fd.kind ≠ .tty then
      Prog.fail .ebadf
    else
      writeKind world fdNumber fd count

/-! ## Seeking and truncating -/

/-- A 64-bit word as a signed number. -/
def asI64 (word : UInt64) : Int :=
  word.toBitVec.toInt

def saturatingAdd (left right : Int) : Int :=
  max (-2 ^ 63) (min (2 ^ 63 - 1) (left + right))

/-- Where `lseek` goes, or no place when it does not know the `whence`. -/
def seekTarget (current size offset whence : Int) : Option Int :=
  if whence = 0 then
    some offset
  else if whence = 1 then
    some (saturatingAdd current offset)
  else if whence = 2 then
    some (saturatingAdd size offset)
  else if whence = 3 then
    some current
  else if whence = 4 then
    some size
  else
    none

def ramFileSize (state : State) (fd : Fd) : Option Nat :=
  (ramFileIndex state fd.path).map fun index => (state.ramFiles index).len

/-- The size of what a descriptor refers to, 0 if it has none. -/
def seekSize (world : World) (state : State) (fd : Fd) : Nat :=
  match
    if fd.kind = .binary then
      (world.binary fd.path).map fun binary => binary.bytes.length
    else if fd.kind = .text then
      (world.text fd.path).map List.length
    else
      none
  with
  | some size => size
  | none => (ramFileSize state fd).getD 0

/-- The kinds of descriptors that `lseek` refuses. -/
def FileKind.unseekable : FileKind → Bool
  | .tty | .pipeRead | .pipeWrite | .socket => true
  | _ => false

/-- The arm of `lseek` in the table of system calls. -/
def lseek
    (world : World)
    (fdNumber : Int)
    (offset : UInt64)
    (whence : Int) :
    Sys UInt64 := do
  let fd ← fdSnapshot fdNumber
  if fd.kind.unseekable then
    Prog.fail .espipe
  else do
    let state ← Prog.gets id
    match
      seekTarget (asI64 fd.position) (seekSize world state fd) (asI64 offset)
        whence
    with
    | none => Prog.fail .einval
    | some next =>
        if next < 0 then
          Prog.fail .einval
        else do
          Prog.modify (State.setPosition fdNumber.toNat next.toNat)
          pure (UInt64.ofNat next.toNat)

def ramFileTruncate (path : List UInt8) (size : Nat) : Sys Unit := do
  let state ← Prog.gets id
  match ramFileIndex state path with
  | none => Prog.fail .enoent
  | some index =>
      if size > ramFileCapacity then
        Prog.fail .efbig
      else
        let file := state.ramFiles index
        -- nothing is written when the file is cut
        Prog.modify
          (State.setRamFile index
            { file with
              data := blit file.data file.len (fun _ => 0) (size - file.len)
              len := size })

/-- The arm of `ftruncate` in the table of system calls. -/
def ftruncate (fdNumber : Int) (size : Nat) : Sys Unit := do
  let fd ← fdSnapshot fdNumber
  if fd.kind = .ramFile then
    ramFileTruncate fd.path size
  else
    Prog.fail .erofs

end VibuxOS.Files
