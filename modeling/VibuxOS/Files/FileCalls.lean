import VibuxOS.Files.RamFiles

namespace VibuxOS.Files

open VibuxOS.Lib

/-!
# The other calls on files

Duplicating and changing descriptors, writing from several buffers, moving
bytes from one descriptor to another, and the calls that create, rename and
remove RAM files or change the working directory.
-/

def bytes (text : String) : List UInt8 := ascii text.toList

/-- The number of an error. -/
def Errno.number : Errno → Nat
  | .eperm => 1
  | .enoent => 2
  | .eintr => 4
  | .ebadf => 9
  | .eagain => 11
  | .enomem => 12
  | .efault => 14
  | .eexist => 17
  | .enotdir => 20
  | .eisdir => 21
  | .einval => 22
  | .emfile => 24
  | .efbig => 27
  | .enospc => 28
  | .espipe => 29
  | .erofs => 30
  | .epipe => 32
  | .enametoolong => 36
  | .eafnosupport => 97
  | .enotconn => 107

/-- `neg_errno`, as an unsigned number -/
def negErrno (error : Errno) : Nat := 2 ^ 64 - error.number

/-! ## Descriptors -/

/-- The arm of `close` in the table of system calls. -/
def close (fdNumber : Int) : Sys Unit := do
  let _ ← fdSnapshot fdNumber
  Prog.modify (State.setFd fdNumber.toNat Fd.empty)

/-- `close_range_impl` -/
def closeRange (first last flags : Nat) : Sys Unit :=
  if flags &&& 3 ≠ flags ∨ first > last then
    Prog.fail .einval
  else
    Prog.modify fun state =>
      { state with
        fds := fun index =>
          if 3 ≤ index ∧ first ≤ index ∧
              index ≤ min last (Syscall.fileFdMax - 1) then
            Fd.empty
          else
            state.fds index }

/-- A descriptor with `O_CLOEXEC` set or cleared. -/
def Fd.withCloexec (cloexec : Bool) (fd : Fd) : Fd :=
  { fd with
    flags :=
      if cloexec then
        fd.flags ||| Syscall.oCloexec
      else
        fd.flags &&& ~~~Syscall.oCloexec }

def fdDuplicate (oldFd minFd : Int) (cloexec : Bool) : Sys Nat :=
  if oldFd < 0 ∨ minFd < 0 then
    Prog.fail .ebadf
  else do
    let copied ← fdSnapshot oldFd
    let target := max minFd.toNat 3
    let free ← Prog.gets fun state =>
      (List.range' target (Syscall.fileFdMax - target)).find? fun index =>
        !(state.fds index).used
    match free with
    | none => Prog.fail .emfile
    | some index => do
        Prog.modify (State.setFd index (copied.withCloexec cloexec))
        pure index

def fdDuplicateExact (oldFd newFd : Int) (cloexec : Bool) : Sys Nat :=
  if oldFd < 0 ∨ newFd < 0 then
    Prog.fail .ebadf
  else if oldFd = newFd then
    if cloexec then
      Prog.fail .einval
    else
      pure newFd.toNat
  else if newFd ≥ Syscall.fileFdMax then
    Prog.fail .ebadf
  else do
    let copied ← fdSnapshot oldFd
    Prog.modify (State.setFd newFd.toNat (copied.withCloexec cloexec))
    pure newFd.toNat

/-- What `fcntl` returns for the commands it knows. -/
inductive FcntlAnswer where
  | fd (number : Nat)
  | word (value : UInt64)
  deriving Repr, DecidableEq

/-- Change the flags of a descriptor. -/
def State.setFlags (index : Nat) (flags : UInt64) (state : State) : State :=
  state.setFd index { state.fds index with flags := flags }

/-- The flags after `F_SETFL`: the access mode is preserved. -/
def setFlFlags (flags argument : UInt64) : UInt64 :=
  flags &&& Syscall.oAccmode ||| argument &&& ~~~Syscall.oAccmode

/-- The arm of `fcntl` in the table of system calls. -/
def fcntl
    (fdNumber : Int)
    (command argument : UInt64) :
    Sys FcntlAnswer := do
  let fd ← fdSnapshot fdNumber
  if command = 0 then do
    let number ←
      fdDuplicate fdNumber (argument.toUInt32.toBitVec.toInt) false
    pure (.fd number)
  else if command = 1030 then do
    let number ← fdDuplicate fdNumber (argument.toUInt32.toBitVec.toInt) true
    pure (.fd number)
  else if command = 1 then
    pure (.word (if fd.flags &&& Syscall.oCloexec ≠ 0 then 1 else 0))
  else if command = 2 then do
    Prog.modify
      (State.setFlags fdNumber.toNat
        (fd.withCloexec (argument &&& 1 != 0)).flags)
    pure (.word 0)
  else if command = 3 then
    pure (.word fd.flags)
  else if command = 4 then do
    Prog.modify
      (State.setFlags fdNumber.toNat (setFlFlags fd.flags argument))
    pure (.word 0)
  else if command = 9 ∨ command = 8 then
    pure (.word 0)
  else
    Prog.fail .einval

/-! ## Several buffers, and bytes from another descriptor -/

/-- `usize::saturating_add` -/
def saturatingAddUsize (left right : Nat) : Nat := min (2 ^ 64 - 1) (left + right)

/--
The loop of `writev` and `pwritev` over the buffers from `index` on.  An entry
that cannot be copied is `none`; an error of `write_fd` is a large number to
this loop, which counts it and goes on.
-/
def writevLoop
    (fdNumber : Int)
    (iov : Nat → Option (World × Nat)) :
    Nat →
    Nat →
    Nat →
    Sys Nat
  | 0, _, total => pure total
  | left + 1, index, total =>
      match iov index with
      | none =>
          if total = 0 then
            Prog.fail .efault
          else
            pure total
      | some (world, len) => do
          let written ←
            Prog.attempt (writeFd world fdNumber (min len (2 ^ 20)))
          match written with
          | .error error =>
              writevLoop fdNumber iov left (index + 1)
                (saturatingAddUsize total (negErrno error))
          | .ok amount =>
              if amount > 0 then
                writevLoop fdNumber iov left (index + 1)
                  (saturatingAddUsize total amount)
              else
                pure total

/-- The arm of `writev` in the table of system calls. -/
def writev
    (fdNumber : Int)
    (iov : Nat → Option (World × Nat))
    (iovCount : Nat) :
    Sys Nat :=
  if iovCount > 1024 then
    Prog.fail .einval
  else
    writevLoop fdNumber iov iovCount 0 0

/-- The arm of `pwritev`, which leaves its offset unused. -/
def pwritev
    (fdNumber : Int)
    (iov : Nat → Option (World × Nat))
    (iovCount : Nat) :
    Sys Nat :=
  if iovCount > 1024 then
    Prog.fail .einval
  else do
    let fd ← fdSnapshot fdNumber
    if fd.kind = .binary ∨ fd.kind = .text then
      Prog.fail .erofs
    else
      writevLoop fdNumber iov iovCount 0 0

/--
The loop of `splice_impl` and `copy_file_range_impl`.  `kernel` says what
`read_fd` and `write_fd` find when they are given the address of a buffer of
the kernel.
-/
def transferLoop
    (kernel : World)
    (fdIn fdOut : Int)
    (len : Nat) :
    Nat →
    Nat →
    Sys Nat
  | 0, _ => Prog.hang
  | fuel + 1, total =>
      if total < len then do
        let taken ←
          Prog.attempt (readFd kernel fdIn (min 4096 (len - total)))
        match taken with
        | .error error =>
            if total = 0 then
              Prog.fail error
            else
              pure total
        | .ok buffer =>
            if buffer = [] then
              pure total
            else do
              let written ←
                Prog.attempt
                  (writeFd
                    { kernel with source := fun index => buffer.getD index 0 }
                    fdOut buffer.length)
              match written with
              | .error error =>
                  if total = 0 then
                    Prog.fail error
                  else
                    pure total
              | .ok _ =>
                  transferLoop kernel fdIn fdOut len fuel
                    (total + buffer.length)
      else
        pure total

/-- `splice_impl` -/
def splice
    (kernel : World)
    (fdIn fdOut : Int)
    (len flags : Nat) :
    Sys Nat := do
  let _ ← fdSnapshot fdIn
  let _ ← fdSnapshot fdOut
  if flags &&& 15 ≠ flags then
    Prog.fail .einval
  else
    transferLoop kernel fdIn fdOut len (len + 1) 0

/-- `copy_file_range_impl` -/
def copyFileRange
    (kernel : World)
    (fdIn fdOut : Int)
    (len flags : Nat) :
    Sys Nat :=
  if flags ≠ 0 then
    Prog.fail .einval
  else do
    let _ ← fdSnapshot fdIn
    let _ ← fdSnapshot fdOut
    transferLoop kernel fdIn fdOut len (len + 1) 0

/-! ## Paths -/

/-- The arm of `creat` in the table of system calls. -/
def creat (world : World) (path : List UInt8) (mode : UInt64) : Sys Nat :=
  openPath world path
    (oCreat ||| Syscall.oWronly ||| oTrunc ||| mode &&& 0o777)

def ramFileRemove (path : List UInt8) : Sys Unit := do
  let found ← Prog.gets fun state => ramFileIndex state path
  match found with
  | none => Prog.fail .enoent
  | some index => Prog.modify (State.setRamFile index RamFile.empty)

/-- The RAM files without the one that has a path, if there is one. -/
def State.removeExisting (path : List UInt8) (state : State) : State :=
  match ramFileIndex state path with
  | some existing => state.setRamFile existing RamFile.empty
  | none => state

def ramFileRename (old new : List UInt8) : Sys Unit :=
  if new.length > 160 then
    Prog.fail .enametoolong
  else do
    let found ← Prog.gets fun state => ramFileIndex state old
    match found with
    | none => Prog.fail .enoent
    | some index => do
        Prog.modify (State.removeExisting new)
        Prog.modify fun state =>
          state.setRamFile index { state.ramFiles index with path := new }

/-- The arm of `chdir` in the table of system calls. -/
def chdir (path : List UInt8) : Sys Unit :=
  if isDirectoryPath path then
    Prog.modify fun state => { state with cwd := path }
  else
    Prog.fail .enoent

def fdIsDirectory (fd : Fd) : Bool :=
  fd.kind == .text && (fd.path == [] || isDirectoryPath fd.path)

def normalizeFdPath (fd : Fd) : List UInt8 :=
  if fd.path = [] then bytes "/" else fd.path

/-- The arm of `fchdir` in the table of system calls. -/
def fchdir (fdNumber : Int) : Sys Unit := do
  let fd ← fdSnapshot fdNumber
  if fdIsDirectory fd then
    Prog.modify fun state => { state with cwd := normalizeFdPath fd }
  else
    Prog.fail .enotdir

end VibuxOS.Files
