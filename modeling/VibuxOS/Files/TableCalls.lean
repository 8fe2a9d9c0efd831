import VibuxOS.Files.DescriptorFlags
import VibuxOS.Files.SlotCreation

namespace VibuxOS.Files

open VibuxOS.Lib

/-!
# The descriptor table

Some calls fill entries of the table, some copy or clear them, and some move the
position of an open one.  An entry that is not in use is empty, a descriptor of
a kind with a table of its own names a marked entry of it, and a new descriptor
gets the lowest number.
-/

/-! ## Pipes, and descriptors without a table -/

/-- A read or write end of the pipe in a slot. -/
def Fd.isPipeEnd (fd : Fd) (id : Nat) : Bool :=
  (fd.kind == .pipeRead || fd.kind == .pipeWrite) &&
    fd.path.length == 1 && fd.id == id

def pipeSlotReferenced (state : State) (id : Nat) : Bool :=
  (List.range Syscall.fileFdMax).any fun index =>
    (state.fds index).isPipeEnd id

def pipeAllocSlot : Sys (Option Nat) := do
  init
  let slot ←
    Prog.gets fun state =>
      firstUnused Syscall.pipeMax (pipeSlotReferenced state)
  match slot with
  | none => pure none
  | some id => do
      Prog.modify (State.putBuffer id Syscall.PipeBuffer.fresh)
      pure (some id)

/-- `PIPE_BUFFERS[id].used = false` -/
def State.releaseBuffer (id : Nat) (state : State) : State :=
  state.putBuffer id { state.pipeBuffers id with used := false }

/-- `create_pipe`; `copied` says whether the numbers reach the caller. -/
def createPipe (copied : Bool) (flags : UInt64) : Sys Nat :=
  if flags &&&
      ~~~(Syscall.oCloexec ||| Syscall.oNonblock ||| Syscall.oDirect) ≠ 0 then
    Prog.fail .einval
  else do
    let slot ← pipeAllocSlot
    match slot with
    | none => Prog.fail .emfile
    | some id => do
        let readFd ← Prog.attempt (allocFd (objectFd .pipeRead flags id))
        match readFd with
        | .error _ => do
            Prog.modify (State.releaseBuffer id)
            Prog.fail .emfile
        | .ok readFd => do
            let writeFd ←
              Prog.attempt
                (allocFd (objectFd .pipeWrite (flags ||| Syscall.oWronly) id))
            match writeFd with
            | .error _ => do
                Prog.modify (State.setFd readFd Fd.empty)
                Prog.modify (State.releaseBuffer id)
                Prog.fail .emfile
            | .ok writeFd =>
                if copied then
                  pure 0
                else do
                  Prog.modify (State.setFd readFd Fd.empty)
                  Prog.modify (State.setFd writeFd Fd.empty)
                  Prog.modify (State.releaseBuffer id)
                  Prog.fail .efault

def socketAlloc (domain kind fullFlags : UInt64) : Sys Nat :=
  if domain ∉ [1, 2, 10] ∨ kind &&& 15 ∉ [1, 2, 3] then
    Prog.fail .eafnosupport
  else
    allocFd (socketFd fullFlags [])

/-- `memfd_create_impl`; `name` is what can be read at its address. -/
def memfdCreate (name : Option (List UInt8)) (flags : UInt64) : Sys Nat :=
  match name with
  | none => Prog.fail .efault
  | some name =>
      if flags &&& ~~~7 ≠ 0 then
        Prog.fail .einval
      else do
        init
        allocFd (opened .zero Syscall.oRdwr name)

/-- `pidfd_impl` -/
def pidfd (targetPid : UInt64) : Sys Nat := do
  init
  allocFd
    (opened .null (Syscall.oRdonly ||| Syscall.oCloexec) [targetPid.toUInt8])

/-- The arm of `inotify_init` in the table of system calls. -/
def inotifyInit (flags : UInt64) : Sys Nat :=
  allocFd (opened .inotify flags [])

/-! ## Calls -/

/-- The calls that touch the table. -/
inductive TableCall where
  | openPath (world : World) (path : List UInt8) (flags : UInt64)
  | creat (world : World) (path : List UInt8) (mode : UInt64)
  | pipe (copied : Bool) (flags : UInt64)
  | socket (domain kind : UInt64)
  | socketpair (domain address : UInt64) (copied : Bool) (flags : UInt64)
  | memfd (name : Option (List UInt8)) (flags : UInt64)
  | pidfd (targetPid : UInt64)
  | inotify (flags : UInt64)
  | eventfd (counter flags : UInt64) (semaphore : Bool)
  | timerfd (clockId flags : UInt64)
  | signalfd (mask flags : UInt64)
  | epoll (flags : UInt64)
  | dup (fdNumber : Int)
  | dupExact (oldFd newFd : Int) (cloexec : Bool)
  | fcntl (fdNumber : Int) (command argument : UInt64)
  | close (fdNumber : Int)
  | closeRange (first last flags : Nat)
  | exec
  | read (world : World) (fdNumber : Int) (count : Nat)
  | write (world : World) (fdNumber : Int) (count : Nat)
  | writev
      (fdNumber : Int)
      (iov : Nat → Option (World × Nat))
      (iovCount : Nat)
  | pwritev
      (fdNumber : Int)
      (iov : Nat → Option (World × Nat))
      (iovCount : Nat)
  | splice (kernel : World) (fdIn fdOut : Int) (len flags : Nat)
  | copyFileRange (kernel : World) (fdIn fdOut : Int) (len flags : Nat)
  | lseek (world : World) (fdNumber : Int) (offset : UInt64) (whence : Int)

/-- The number in an answer of `fcntl`. -/
def FcntlAnswer.number : FcntlAnswer → Nat
  | .fd number => number
  | .word value => value.toNat

/-- A call whose result is no descriptor. -/
def noNumber {α : Type} (program : Sys α) : Sys Nat := do
  let _ ← program
  pure 0

namespace TableCall

def run : TableCall → ObjectSys Nat
  | .openPath world path flags => onFiles (Files.openPath world path flags)
  | .creat world path mode => onFiles (Files.creat world path mode)
  | .pipe copied flags => onFiles (createPipe copied flags)
  | .socket domain kind =>
      onFiles (socketAlloc domain (kind &&& ~~~fdFlags) kind)
  | .socketpair domain address copied flags =>
      onFiles (Files.socketpair domain address copied flags)
  | .memfd name flags => onFiles (memfdCreate name flags)
  | .pidfd targetPid => onFiles (Files.pidfd targetPid)
  | .inotify flags => onFiles (inotifyInit flags)
  | .eventfd counter flags semaphore => eventfdAlloc counter flags semaphore
  | .timerfd clockId flags => timerfdAlloc clockId flags
  | .signalfd mask flags => signalfdAlloc mask flags
  | .epoll flags => epollAlloc flags
  | .dup fdNumber => onFiles (fdDuplicate fdNumber 3 false)
  | .dupExact oldFd newFd cloexec =>
      onFiles (fdDuplicateExact oldFd newFd cloexec)
  | .fcntl fdNumber command argument =>
      onFiles do
        let answer ← Files.fcntl fdNumber command argument
        pure answer.number
  | .close fdNumber => onFiles (noNumber (Files.close fdNumber))
  | .closeRange first last flags =>
      onFiles (noNumber (Files.closeRange first last flags))
  | .exec => onFiles (noNumber closeOnExec)
  | .read world fdNumber count =>
      onFiles (noNumber (readFd world fdNumber count))
  | .write world fdNumber count => onFiles (writeFd world fdNumber count)
  | .writev fdNumber iov iovCount =>
      onFiles (Files.writev fdNumber iov iovCount)
  | .pwritev fdNumber iov iovCount =>
      onFiles (Files.pwritev fdNumber iov iovCount)
  | .splice kernel fdIn fdOut len flags =>
      onFiles (Files.splice kernel fdIn fdOut len flags)
  | .copyFileRange kernel fdIn fdOut len flags =>
      onFiles (Files.copyFileRange kernel fdIn fdOut len flags)
  | .lseek world fdNumber offset whence =>
      onFiles (noNumber (Files.lseek world fdNumber offset whence))

/-- The number from which a call chooses its descriptors, if it does. -/
def lowest : TableCall → Option Nat
  | .openPath _ _ _ | .creat _ _ _ | .pipe _ _ | .socket _ _
  | .socketpair _ _ _ _ | .memfd _ _ | .pidfd _ | .inotify _
  | .eventfd _ _ _ | .timerfd _ _ | .signalfd _ _ | .epoll _
  | .dup _ => some 3
  | .fcntl _ command argument =>
      if command = 0 ∨ command = 1030 then
        some (minimum argument).toNat
      else
        none
  | _ => none

/-- The calls that make two descriptors, and copy their numbers to the caller. -/
def makesTwo : TableCall → Bool
  | .pipe _ _ | .socketpair _ _ _ _ => true
  | _ => false

end TableCall

/-! ## What holds -/

def Table.size : Table → Nat
  | .eventFd => eventfdMax
  | .timerFd => timerfdMax
  | .signalFd => signalfdMax
  | .epoll => epollMax
  | .socketPair => Syscall.socketMax

/-- A descriptor that names an entry of a table names a marked one inside it. -/
structure Fd.Names (fd : Fd) (state : ObjectState) : Prop where
  pipe :
    fd.kind = .pipeRead ∨ fd.kind = .pipeWrite →
      fd.path.length = 1 ∧ fd.id < Syscall.pipeMax ∧
        (state.pipeBuffers fd.id).used = true
  object :
    ∀ key,
      fd.slot = some key →
      key.2 < key.1.size ∧ state.marked key = true

/-- The lowest free number that is not below a given one. -/
def LowestFree (fds : Nat → Fd) (least number : Nat) : Prop :=
  IsLeast
    {index |
      least ≤ index ∧ index < Syscall.fileFdMax ∧ (fds index).used = false}
    number

/-- New descriptors, each at the lowest free number, and nothing else. -/
inductive Made (least : Nat) : (Nat → Fd) → List Nat → (Nat → Fd) → Prop
  | nothing
      (fds : Nat → Fd) :
      Made least fds [] fds
  | more
      {fds after : Nat → Fd}
      {number : Nat}
      {numbers : List Nat}
      {fd : Fd}
      (isLowest : LowestFree fds least number)
      (used : fd.used = true)
      (others : Made least (Function.update fds number fd) numbers after) :
      Made least fds (number :: numbers) after

/-- The descriptors that a call chooses are at the lowest numbers. -/
def TableCall.Chooses
    (bottom : Nat)
    (state : ObjectState)
    (call : TableCall)
    (number : Nat)
    (final : ObjectState) : Prop :=
  ∀ least,
    call.lowest = some least →
    ∃ numbers,
      (if call.makesTwo then numbers.length = 2 else numbers = [number]) ∧
        Made (max bottom least) state.fds numbers final.fds

/--
Unused entries are empty, so that a scan that an empty entry does not pass counts
the open descriptors; these name marked entries; and new ones get the lowest
numbers, none of them below `bottom`.
-/
structure TableHolds (bottom : Nat) (state : ObjectState) : Prop where
  empty :
    ∀ index,
      3 ≤ index →
      index < Syscall.fileFdMax →
      (state.fds index).used = false →
      state.fds index = Fd.empty
  counted :
    ∀ test : Fd → Bool,
      test Fd.empty = false →
      (((List.range Syscall.fileFdMax).any fun index =>
            test (state.fds index)) = true ↔
        ∃ index < Syscall.fileFdMax,
          (state.fds index).used = true ∧ test (state.fds index) = true)
  named :
    ∀ index < Syscall.fileFdMax,
      (state.fds index).used = true →
      (state.fds index).Names state
  lowest :
    ∀ (call : TableCall) number final,
      call.run state = .ok number final →
      call.Chooses bottom state number final

/--
A call on the table, or any other call; those move the positions of open
descriptors at most, and mark and unmark nothing.
-/
inductive TableStep : ObjectState → ObjectState → Prop
  | call
      {before after : ObjectState}
      (call : TableCall)
      (ended : (call.run before).final? = some after) :
      TableStep before after
  | elsewhere
      {before after : ObjectState}
      (initialized : after.initialized = before.initialized)
      (fds :
        ∀ index,
          after.fds index = before.fds index ∨
            (before.fds index).used = true ∧
              ∃ position,
                after.fds index =
                  { before.fds index with position := position })
      (buffers :
        ∀ id,
          (after.pipeBuffers id).used = (before.pipeBuffers id).used)
      (marks : after.marked = before.marked) :
      TableStep before after

end VibuxOS.Files
