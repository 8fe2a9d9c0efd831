import Mathlib.Logic.Function.Basic
import VibuxOS.Lib.Fifo
import VibuxOS.Lib.Prog

namespace VibuxOS.Syscall

open VibuxOS.Lib

/-!
# Descriptors, pipes and socket pairs

The descriptor table of `arch/x86_64/syscall.rs`, the table of pipe buffers
that pipes and socket pairs share, and the snapshot that `process.rs` keeps of
a parent while its child runs.

Whether a copy to or from user memory succeeds depends on the page tables; here
it is an argument of the call.  What a terminal returns is up to the terminal.
The serial numbers of channels and the logs of the bytes that went into and out
of each pipe are ghosts.
-/

def fileFdMax : Nat := 128

def pipeMax : Nat := 32

def pipeCapacity : Nat := 8192

def socketMax : Nat := 8

def oRdonly : UInt64 := 0

def oWronly : UInt64 := 1

def oRdwr : UInt64 := 2

def oNonblock : UInt64 := 0x800

def oDirect : UInt64 := 0x4000

def oCloexec : UInt64 := 0x80000

def oAccmode : UInt64 := 3

/-- The error numbers of the modelled calls. -/
inductive Errno where
  | ebadf
  | eagain
  | enomem
  | efault
  | einval
  | emfile
  | epipe
  | enotconn
  | eafnosupport
  deriving Repr, DecidableEq

/-- The kinds of descriptors that the modelled calls make or look for. -/
inductive FileKind where
  | none
  | tty
  | pipeRead
  | pipeWrite
  | socket
  deriving Repr, DecidableEq

/-- A descriptor; `made` is the serial number of the channel it was made for. -/
structure Fd where
  used : Bool
  kind : FileKind
  flags : UInt64
  position : UInt64
  path : Nat → UInt8
  pathLen : Nat
  made : Nat

def Fd.empty : Fd where
  used := false
  kind := .none
  flags := 0
  position := 0
  path := fun _ => 0
  pathLen := 0
  made := 0

/-- An entry of `PIPE_BUFFERS`. -/
structure PipeBuffer where
  used : Bool
  data : Nat → UInt8
  readPos : Nat
  writePos : Nat
  len : Nat

def PipeBuffer.empty : PipeBuffer where
  used := false
  data := fun _ => 0
  readPos := 0
  writePos := 0
  len := 0

/-- `PipeBuffer::empty` with `used` set, as the allocations leave it. -/
def PipeBuffer.fresh : PipeBuffer :=
  { PipeBuffer.empty with used := true }

/-- An entry of `SOCKET_PAIRS`. -/
structure SocketPair where
  used : Bool
  aToB : UInt8
  bToA : UInt8

def SocketPair.empty : SocketPair where
  used := false
  aToB := 255
  bToA := 255

/--
The running process's descriptors, the shared tables, and the descriptors of a
suspended parent.
-/
structure State where
  fds : Nat → Fd
  pipeBuffers : Nat → PipeBuffer
  socketPairs : Nat → SocketPair
  parent : Option (Nat → Fd)
  made : Nat
  accepted : Nat → List UInt8
  delivered : Nat → List UInt8

/-- The modelled calls. -/
abbrev Sys := Prog State Errno

namespace State

/-- Put a descriptor at an index. -/
def setFd (index : Nat) (fd : Fd) (state : State) : State :=
  { state with fds := Function.update state.fds index fd }

def setPipe (id : Nat) (pipe : PipeBuffer) (state : State) : State :=
  { state with pipeBuffers := Function.update state.pipeBuffers id pipe }

def setPair (index : Nat) (pair : SocketPair) (state : State) : State :=
  { state with
    socketPairs := Function.update state.socketPairs index pair }

/-- The first free index from 3 on, if any. -/
def freeFd (state : State) : Option Nat :=
  (List.range' 3 (fileFdMax - 3)).find? fun index =>
    !(state.fds index).used

end State

/-! ## Looking at descriptors -/

/-- A read or write end of the pipe in a slot. -/
def Fd.isPipeEnd (fd : Fd) (id : Nat) : Bool :=
  (fd.kind == .pipeRead || fd.kind == .pipeWrite) &&
    fd.pathLen == 1 && (fd.path 0).toNat == id

namespace State

def pipeSlotReferenced (state : State) (id : Nat) : Bool :=
  (List.range fileFdMax).any fun index => (state.fds index).isPipeEnd id

def pipeHasReader (state : State) (id : Nat) : Bool :=
  (List.range fileFdMax).any fun index =>
    (state.fds index).kind == .pipeRead &&
      (state.fds index).pathLen == 1 &&
      ((state.fds index).path 0).toNat == id

def pipeHasWriter (state : State) (id : Nat) : Bool :=
  (List.range fileFdMax).any fun index =>
    (state.fds index).kind == .pipeWrite &&
      (state.fds index).pathLen == 1 &&
      ((state.fds index).path 0).toNat == id

/-- The slot that `pipe_alloc_slot` takes. -/
def pipeSlot (state : State) : Option Nat :=
  (List.range pipeMax).find? fun id => !state.pipeSlotReferenced id

/-- The slot that `socket_pair_alloc` takes for one direction. -/
def unusedPipe (state : State) : Option Nat :=
  (List.range pipeMax).find? fun id => !(state.pipeBuffers id).used

/-- The first unused entry of `SOCKET_PAIRS`. -/
def unusedPair (state : State) : Option Nat :=
  (List.range socketMax).find? fun index =>
    !(state.socketPairs index).used

def pipeAvailable (state : State) (id : Nat) : Option Nat :=
  if id ≥ pipeMax then
    none
  else if (state.pipeBuffers id).used then
    some (state.pipeBuffers id).len
  else
    none

def socketPipeFor
    (state : State)
    (socket : Nat)
    (side : UInt8)
    (write : Bool) :
    Option Nat :=
  if socket ≥ socketMax ∨
      (state.socketPairs socket).used = false ∨ side > 1 then
    none
  else if side = 0 then
    if write then
      some (state.socketPairs socket).aToB.toNat
    else
      some (state.socketPairs socket).bToA.toNat
  else if write then
    some (state.socketPairs socket).bToA.toNat
  else
    some (state.socketPairs socket).aToB.toNat

end State

def fdReadable (fd : Fd) : Bool :=
  fd.flags &&& oAccmode != oWronly

def fdWritable (fd : Fd) : Bool :=
  fd.flags &&& oAccmode != oRdonly

def fdSnapshot (fdNumber : Int) : Sys Fd :=
  if fdNumber < 0 ∨ fdNumber ≥ fileFdMax then
    Prog.fail .ebadf
  else do
    let fd ← Prog.gets fun state => state.fds fdNumber.toNat
    if fd.used then
      pure fd
    else
      Prog.fail .ebadf

/-! ## Making and dropping descriptors -/

def allocFd (fd : Fd) : Sys (Option Nat) := do
  let free ← Prog.gets State.freeFd
  match free with
  | some index =>
      Prog.modify (State.setFd index fd)
      pure (some index)
  | none =>
      pure none

def pipeAllocSlot : Sys (Option UInt8) := do
  let slot ← Prog.gets State.pipeSlot
  match slot with
  | some id =>
      Prog.modify (State.setPipe id PipeBuffer.fresh)
      pure (some (UInt8.ofNat id))
  | none =>
      pure none

/-- `PIPE_BUFFERS[id].used = false` -/
def releasePipe (id : Nat) : Sys Unit :=
  Prog.modify fun state =>
    state.setPipe id { state.pipeBuffers id with used := false }

/-- `state_mut().fds[index] = Fd::empty()` -/
def clearFd (index : Nat) : Sys Unit :=
  Prog.modify (State.setFd index Fd.empty)

def pipeEnd
    (kind : FileKind)
    (flags : UInt64)
    (pipeId : UInt8)
    (made : Nat) :
    Fd where
  used := true
  kind := kind
  flags := flags
  position := 0
  path := Function.update (fun _ => 0) 0 pipeId
  pathLen := 1
  made := made

/-- `create_pipe`; `copied` says whether the two numbers reach the caller. -/
def createPipe (copied : Bool) (flags : UInt64) : Sys Nat :=
  if flags &&& ~~~(oCloexec ||| oNonblock ||| oDirect) ≠ 0 then
    Prog.fail .einval
  else do
    let made ← Prog.gets State.made
    let slot ← pipeAllocSlot
    match slot with
    | none => Prog.fail .emfile
    | some pipeId =>
        let readFd ← allocFd (pipeEnd .pipeRead flags pipeId made)
        match readFd with
        | none =>
            releasePipe pipeId.toNat
            Prog.fail .emfile
        | some readFd =>
            let writeFd ←
              allocFd (pipeEnd .pipeWrite (flags ||| oWronly) pipeId made)
            match writeFd with
            | none =>
                clearFd readFd
                releasePipe pipeId.toNat
                Prog.fail .emfile
            | some writeFd =>
                if copied then
                  Prog.modify fun state =>
                    { state with made := made + 1 }
                  pure 0
                else
                  clearFd readFd
                  clearFd writeFd
                  releasePipe pipeId.toNat
                  Prog.fail .efault

/-- Take a pipe buffer for one direction of a socket pair. -/
def socketPipeAlloc : Sys (Option UInt8) := do
  let slot ← Prog.gets State.unusedPipe
  match slot with
  | some id =>
      Prog.modify (State.setPipe id PipeBuffer.fresh)
      pure (some (UInt8.ofNat id))
  | none =>
      pure none

def socketPairAlloc : Sys (Option Nat) := do
  let pair ← Prog.gets State.unusedPair
  match pair with
  | none => pure none
  | some index =>
      let first ← socketPipeAlloc
      match first with
      | none => pure none
      | some aToB =>
          let second ← socketPipeAlloc
          match second with
          | none =>
              Prog.modify (State.setPipe aToB.toNat PipeBuffer.empty)
              pure none
          | some bToA =>
              Prog.modify (State.setPair index ⟨true, aToB, bToA⟩)
              pure (some index)

/-- One end of a socket pair, before it is told which. -/
def socketEnd (flags : UInt64) (made : Nat) : Fd where
  used := true
  kind := .socket
  flags := oRdwr ||| (flags &&& (oNonblock ||| oCloexec))
  position := 0
  path := fun _ => 0
  pathLen := 2
  made := made

/-- Tell an end which pair and side it is. -/
def setSide (index pair : Nat) (side : UInt8) : Sys Unit :=
  Prog.modify fun state =>
    state.setFd index
      { state.fds index with
        path :=
          Function.update
            (Function.update (state.fds index).path 0 (UInt8.ofNat pair))
            1 side }

/-- `SOCKET_PAIRS[pair] = SocketPair::empty()` -/
def clearPair (pair : Nat) : Sys Unit :=
  Prog.modify (State.setPair pair SocketPair.empty)

/-- `socket_pair_from_user`; `copied` says whether the two numbers reach the caller. -/
def socketPairFromUser
    (address : UInt64)
    (copied : Bool)
    (flags : UInt64) :
    Sys Nat :=
  if address = 0 then
    Prog.fail .efault
  else do
    let made ← Prog.gets State.made
    let allocated ← socketPairAlloc
    match allocated with
    | none => Prog.fail .emfile
    | some pair =>
        let a ← allocFd (socketEnd flags made)
        let b ← allocFd (socketEnd flags made)
        match a, b with
        | some a, some b =>
            setSide a pair 0
            setSide b pair 1
            if copied then
              Prog.modify fun state => { state with made := made + 1 }
              pure 0
            else
              clearFd a
              clearFd b
              clearPair pair
              Prog.fail .efault
        | some a, none =>
            clearFd a
            clearPair pair
            Prog.fail .emfile
        | none, _ =>
            clearPair pair
            Prog.fail .emfile

/-- The arm of `socketpair` in the table of system calls. -/
def socketpair
    (domain address : UInt64)
    (copied : Bool)
    (flags : UInt64) :
    Sys Nat :=
  if domain = 1 then
    socketPairFromUser address copied flags
  else
    Prog.fail .eafnosupport

/-- Set or clear `O_CLOEXEC`. -/
def Fd.withCloexec (fd : Fd) (cloexec : Bool) : Fd :=
  { fd with
    flags :=
      if cloexec then fd.flags ||| oCloexec else fd.flags &&& ~~~oCloexec }

/-- The first free index from `start` on, if any. -/
def State.freeFdFrom (state : State) (start : Nat) : Option Nat :=
  (List.range' start (fileFdMax - start)).find? fun index =>
    !(state.fds index).used

def fdDuplicate (oldFd minFd : Int) (cloexec : Bool) : Sys Nat :=
  if oldFd < 0 ∨ minFd < 0 then
    Prog.fail .ebadf
  else do
    let old ← Prog.gets fun state => state.fds oldFd.toNat
    if oldFd ≥ fileFdMax ∨ old.used = false then
      Prog.fail .ebadf
    else do
      let target ←
        Prog.gets fun state => state.freeFdFrom (max minFd.toNat 3)
      match target with
      | none => Prog.fail .emfile
      | some target =>
          Prog.modify (State.setFd target (old.withCloexec cloexec))
          pure target

def fdDuplicateExact (oldFd newFd : Int) (cloexec : Bool) : Sys Nat :=
  if oldFd < 0 ∨ newFd < 0 then
    Prog.fail .ebadf
  else if oldFd = newFd then
    if cloexec then
      Prog.fail .einval
    else
      pure newFd.toNat
  else if oldFd ≥ fileFdMax ∨ newFd ≥ fileFdMax then
    Prog.fail .ebadf
  else do
    let old ← Prog.gets fun state => state.fds oldFd.toNat
    if old.used = false then
      Prog.fail .ebadf
    else
      Prog.modify
        (State.setFd newFd.toNat (old.withCloexec cloexec))
      pure newFd.toNat

/-- `F_DUPFD` and `F_DUPFD_CLOEXEC` of `fcntl` -/
def fcntlDuplicate (fd minFd : Int) (cloexec : Bool) : Sys Nat := do
  let _ ← fdSnapshot fd
  fdDuplicate fd minFd cloexec

/-- The arm of `close` in the table of system calls. -/
def close (fd : Int) : Sys Nat := do
  let _ ← fdSnapshot fd
  clearFd fd.toNat
  pure 0

def closeRangeImpl (first last : UInt32) (flags : UInt64) : Sys Nat :=
  if flags &&& ~~~(1 ||| 2) ≠ 0 then
    Prog.fail .einval
  else if first > last then
    Prog.fail .einval
  else do
    Prog.modify fun state =>
      { state with
        fds := fun index =>
          if max first.toNat 3 ≤ index ∧
              index ≤ min last.toNat (fileFdMax - 1) then
            Fd.empty
          else
            state.fds index }
    pure 0

/-! ## Reading and writing -/

namespace PipeBuffer

/-- The first bytes of a buffer, as the copy loops take them. -/
def peek (pipe : PipeBuffer) (amount : Nat) : List UInt8 :=
  ringRead pipeCapacity pipe.data pipe.readPos amount

/-- Move the read position on. -/
def take (pipe : PipeBuffer) (amount : Nat) : PipeBuffer :=
  { pipe with
    readPos := (pipe.readPos + amount) % pipeCapacity
    len := pipe.len - amount }

/-- Copy bytes in and move the write position on. -/
def put
    (pipe : PipeBuffer)
    (source : Nat → UInt8)
    (amount : Nat) :
    PipeBuffer :=
  { pipe with
    data := ringWrite pipeCapacity pipe.data pipe.writePos source amount
    writePos := (pipe.writePos + amount) % pipeCapacity
    len := pipe.len + amount }

theorem length_peek
    (pipe : PipeBuffer)
    (amount : Nat) :
    (pipe.peek amount).length = amount := by
  unfold peek ringRead
  dsimp only
  rw [List.length_append, List.length_map, List.length_map, List.length_range,
    List.length_range]
  omega

end PipeBuffer

namespace State

/-- Take bytes out of a buffer. -/
def takePipe (id amount : Nat) (state : State) : State :=
  state.setPipe id ((state.pipeBuffers id).take amount)

/-- Put bytes into a buffer. -/
def putPipe
    (id : Nat)
    (source : Nat → UInt8)
    (amount : Nat)
    (state : State) :
    State :=
  state.setPipe id ((state.pipeBuffers id).put source amount)

/-- Log the bytes that a read of a pipe has handed out. -/
def logDelivered
    (made : Nat)
    (bytes : List UInt8)
    (state : State) :
    State :=
  { state with
    delivered :=
      Function.update state.delivered made
        (state.delivered made ++ bytes) }

/-- Log the bytes that a write to a pipe has taken in. -/
def logAccepted
    (made : Nat)
    (bytes : List UInt8)
    (state : State) :
    State :=
  { state with
    accepted :=
      Function.update state.accepted made
        (state.accepted made ++ bytes) }

end State

/-- `pipe_read_fd`; `copied` says whether the bytes reach the caller. -/
def pipeReadFd (fdNumber : Int) (count : Nat) (copied : Bool) : Sys Nat :=
  if count = 0 then
    pure 0
  else do
    let fd ← fdSnapshot fdNumber
    if fd.kind ≠ .pipeRead ∨ fd.pathLen ≠ 1 then
      Prog.fail .ebadf
    else do
      let slot := (fd.path 0).toNat
      let available ← Prog.gets fun state => state.pipeAvailable slot
      match available with
      | none => Prog.fail .ebadf
      | some available =>
          if available = 0 then do
            let hasWriter ← Prog.gets fun state => state.pipeHasWriter slot
            if hasWriter then
              Prog.fail .eagain
            else
              pure 0
          else do
            let amount := min count available
            let pipe ← Prog.gets fun state => state.pipeBuffers slot
            if copied then
              Prog.modify fun state =>
                (state.takePipe slot amount).logDelivered fd.made
                  (pipe.peek amount)
              pure amount
            else
              Prog.fail .efault

/--
`pipe_write_fd`; `source` is the memory of the caller and `copied` says whether
it can be read.
-/
def pipeWriteFd
    (fdNumber : Int)
    (count : Nat)
    (source : Nat → UInt8)
    (copied : Bool) :
    Sys Nat :=
  if count = 0 then
    pure 0
  else do
    let fd ← fdSnapshot fdNumber
    if fd.kind ≠ .pipeWrite ∨ fd.pathLen ≠ 1 then
      Prog.fail .ebadf
    else do
      let slot := (fd.path 0).toNat
      let available ← Prog.gets fun state => state.pipeAvailable slot
      match available with
      | none => Prog.fail .ebadf
      | some available => do
          let hasReader ← Prog.gets fun state => state.pipeHasReader slot
          if hasReader = false then
            Prog.fail .epipe
          else if pipeCapacity - available = 0 then
            Prog.fail .eagain
          else
            let amount := min count (pipeCapacity - available)
            if copied then do
              Prog.modify fun state =>
                (state.putPipe slot source amount).logAccepted fd.made
                  ((List.range amount).map source)
              pure amount
            else
              Prog.fail .efault

def socketReadFd (fdNumber : Int) (count : Nat) (copied : Bool) : Sys Nat := do
  let fd ← fdSnapshot fdNumber
  if fd.pathLen ≠ 2 then
    Prog.fail .enotconn
  else do
    let slot ←
      Prog.gets fun state =>
        state.socketPipeFor (fd.path 0).toNat (fd.path 1) false
    match slot with
    | none => Prog.fail .enotconn
    | some slot => do
        let available ← Prog.gets fun state => (state.pipeBuffers slot).len
        if available = 0 then
          if fd.flags &&& oNonblock ≠ 0 then
            Prog.fail .eagain
          else
            pure 0
        else if copied then do
          Prog.modify (State.takePipe slot (min count available))
          pure (min count available)
        else
          Prog.fail .efault

def socketWriteFd
    (fdNumber : Int)
    (count : Nat)
    (source : Nat → UInt8)
    (copied : Bool) :
    Sys Nat := do
  let fd ← fdSnapshot fdNumber
  if fd.pathLen ≠ 2 then
    Prog.fail .enotconn
  else do
    let slot ←
      Prog.gets fun state =>
        state.socketPipeFor (fd.path 0).toNat (fd.path 1) true
    match slot with
    | none => Prog.fail .enotconn
    | some slot => do
        let available ← Prog.gets fun state => (state.pipeBuffers slot).len
        if pipeCapacity - available = 0 then
          Prog.fail .eagain
        else
          let amount := min count (pipeCapacity - available)
          if copied then do
            Prog.modify (State.putPipe slot source amount)
            pure amount
          else
            Prog.fail .efault

/-- What a terminal returns. -/
abbrev Device := Except Errno Nat

/-- Return what a terminal returns. -/
def ofDevice : Device → Sys Nat
  | .ok value => pure value
  | .error error => Prog.fail error

/-- `read_fd` on the kinds of descriptors there are. -/
def readFd
    (fdNumber : Int)
    (count : Nat)
    (copied : Bool)
    (device : Device) :
    Sys Nat :=
  if fdNumber < 0 ∨ fdNumber ≥ fileFdMax then
    Prog.fail .ebadf
  else if count = 0 then
    pure 0
  else do
    let fd ← fdSnapshot fdNumber
    if fdReadable fd = false then
      Prog.fail .ebadf
    else
      match fd.kind with
      | .pipeRead => pipeReadFd fdNumber count copied
      | .socket => socketReadFd fdNumber count copied
      | .tty => ofDevice device
      | _ => Prog.fail .ebadf

/-- `write_fd` on the kinds of descriptors there are. -/
def writeFd
    (fdNumber : Int)
    (count : Nat)
    (source : Nat → UInt8)
    (copied : Bool)
    (device : Device) :
    Sys Nat :=
  if fdNumber < 0 ∨ fdNumber ≥ fileFdMax then
    Prog.fail .ebadf
  else if count = 0 then
    pure 0
  else do
    let fd ← fdSnapshot fdNumber
    if fdWritable fd = false ∧ fd.kind ≠ .tty then
      Prog.fail .ebadf
    else
      match fd.kind with
      | .pipeWrite => pipeWriteFd fdNumber count source copied
      | .socket => socketWriteFd fdNumber count source copied
      | .tty => ofDevice device
      | _ => Prog.fail .ebadf

/-! ## Children -/

/-- `do_fork`; `cloned` says whether the address space could be copied. -/
def doFork (cloned : Bool) : Sys Nat := do
  let parent ← Prog.gets State.parent
  match parent with
  | some _ => Prog.fail .eagain
  | none =>
      if cloned then
        Prog.modify fun state => { state with parent := some state.fds }
        pure 0
      else
        Prog.fail .enomem

def doVfork : Sys Nat := do
  let parent ← Prog.gets State.parent
  match parent with
  | some _ => Prog.fail .eagain
  | none =>
      Prog.modify fun state => { state with parent := some state.fds }
      pure 0

/-- The exit of a child; the exit of a process without a parent ends the run. -/
def vforkChildExit : Sys Nat := do
  let parent ← Prog.gets State.parent
  match parent with
  | some fds =>
      Prog.modify fun state => { state with fds := fds, parent := none }
      pure 0
  | none => Prog.hang

/-! ## Runs -/

/-- The calls that a run is made of. -/
inductive Call where
  | pipe (copied : Bool) (flags : UInt64)
  | socketpair (domain address : UInt64) (copied : Bool) (flags : UInt64)
  | dup (fd : Int)
  | dup2 (oldFd newFd : Int)
  | dup3 (oldFd newFd : Int) (flags : UInt64)
  | fcntl (fd minFd : Int) (cloexec : Bool)
  | close (fd : Int)
  | closeRange (first last : UInt32) (flags : UInt64)
  | read (fd : Int) (count : Nat) (copied : Bool) (device : Device)
  | write
      (fd : Int)
      (count : Nat)
      (source : Nat → UInt8)
      (copied : Bool)
      (device : Device)
  | fork (cloned : Bool)
  | vfork
  | exit

namespace Call

def run : Call → Sys Nat
  | .pipe copied flags => createPipe copied flags
  | .socketpair domain address copied flags =>
      Syscall.socketpair domain address copied flags
  | .dup fd => fdDuplicate fd 3 false
  | .dup2 oldFd newFd => fdDuplicateExact oldFd newFd false
  | .dup3 oldFd newFd flags =>
      fdDuplicateExact oldFd newFd (flags &&& oCloexec != 0)
  | .fcntl fd minFd cloexec => fcntlDuplicate fd minFd cloexec
  | .close fd => Syscall.close fd
  | .closeRange first last flags => closeRangeImpl first last flags
  | .read fd count copied device => readFd fd count copied device
  | .write fd count source copied device =>
      writeFd fd count source copied device
  | .fork cloned => doFork cloned
  | .vfork => doVfork
  | .exit => vforkChildExit

/-- The calls that take a slot of `PIPE_BUFFERS`. -/
def allocates : Call → Bool
  | .pipe _ _ => true
  | .socketpair _ _ _ _ => true
  | _ => false

/-- The calls that start or end a child. -/
def family : Call → Bool
  | .fork _ => true
  | .vfork => true
  | .exit => true
  | _ => false

end Call

/-- A call comes back, with a value or an error. -/
def Step (before : State) (call : Call) (after : State) : Prop :=
  (call.run before).final? = some after

/-- A call that meets a condition on the state before it. -/
def StepWhere
    (allowed : State → Call → Prop)
    (before after : State) : Prop :=
  ∃ call, allowed before call ∧ Step before call after

abbrev Run (allowed : State → Call → Prop) : State → State → Prop :=
  Relation.ReflTransGen (StepWhere allowed)

/-- The descriptors as `ProcessState::init` leaves them. -/
def initialFd (index : Nat) : Fd :=
  if index < 3 then
    { used := true
      kind := .tty
      flags := if index = 0 then oRdonly else oWronly
      position := 0
      path := fun _ => 0
      pathLen := 8
      made := 0 }
  else
    Fd.empty

/-- An initialised process without a suspended parent. -/
def State.initial : State where
  fds := initialFd
  pipeBuffers := fun _ => PipeBuffer.empty
  socketPairs := fun _ => SocketPair.empty
  parent := none
  made := 0
  accepted := fun _ => []
  delivered := fun _ => []

end VibuxOS.Syscall
