import VibuxOS.Files.Descriptors
import VibuxOS.Lib.Slots
import VibuxOS.Signals.Frames

namespace VibuxOS.Process

open VibuxOS.Lib VibuxOS.Paging

/-!
# Processes and their children

`process.rs`: a process that forks is suspended until its child exits.  Its
`ProcessState`, its address space and its `fs` base are kept in one save area,
and a child that has exited stays in a table until `wait4` reports it.

User memory is bytes behind page tables; the copy of the stack that
`do_vfork` takes and puts back is part of it and left out.
-/

def maxChildren : Nat := 16

def echild : UInt64 := 10

def eagain : UInt64 := 11

def enomem : UInt64 := 12

def enosys : UInt64 := 38

def oCloexec : UInt64 := 0x80000

def mmapBase : UInt64 := 0x0000600000000000

def heapBase : UInt64 := 0x0000700000000000

structure AltStack where
  sp : UInt64
  size : UInt64
  flags : UInt64

structure ProcessState where
  initialized : Bool
  fds : Nat → Files.Fd
  nextMmap : UInt64
  brk : UInt64
  fsBase : UInt64
  cwd : List UInt8
  exitRequested : Bool
  exitCode : Int32
  uid : UInt32
  gid : UInt32
  euid : UInt32
  egid : UInt32
  suid : UInt32
  sgid : UInt32
  fsuid : UInt32
  fsgid : UInt32
  pid : UInt64
  ppid : UInt64
  pgid : UInt64
  sid : UInt64
  umask : UInt32
  signalMask : UInt64
  pendingSignals : UInt64
  signalActions : Nat → Signals.SignalAction
  altstack : AltStack
  tidAddress : UInt64
  robustList : UInt64
  robustLen : UInt64
  rseq : UInt64
  rseqLen : UInt32
  pdeathSignal : UInt32
  dumpable : UInt32
  noNewPrivs : Bool
  personality : UInt64
  processName : List UInt8
  rngState : UInt64
  nice : Int32
  priority : Int32
  scheduler : UInt32
  timerslackNs : UInt64
  clearChildTid : UInt64

def ProcessState.new : ProcessState where
  initialized := false
  fds := fun _ => Files.Fd.empty
  nextMmap := mmapBase
  brk := heapBase
  fsBase := 0
  cwd := []
  exitRequested := false
  exitCode := 0
  uid := 1000
  gid := 1000
  euid := 1000
  egid := 1000
  suid := 1000
  sgid := 1000
  fsuid := 1000
  fsgid := 1000
  pid := 1
  ppid := 0
  pgid := 1
  sid := 1
  umask := 0o022
  signalMask := 0
  pendingSignals := 0
  signalActions := fun _ => Signals.SignalAction.empty
  altstack := ⟨0, 0, 2⟩
  tidAddress := 0
  robustList := 0
  robustLen := 0
  rseq := 0
  rseqLen := 0
  pdeathSignal := 0
  dumpable := 1
  noNewPrivs := false
  personality := 0
  processName := "bash".toUTF8.toList
  rngState := 0x6A09E667F3BCC909
  nice := 0
  priority := 0
  scheduler := 0
  timerslackNs := 50000
  clearChildTid := 0

/-- The path of the home directory. -/
def home : List UInt8 := "/home/boi".toUTF8.toList

def ProcessState.init (state : ProcessState) : ProcessState :=
  if state.initialized then
    state
  else
    { state with
      initialized := true
      fds := fun index =>
        if index < 3 then
          { used := true
            kind := .tty
            flags := if index = 0 then 0 else 1
            position := 0
            path := List.replicate 8 0 }
        else
          state.fds index
      cwd := home }

structure ChildEntry where
  used : Bool
  pid : UInt64
  status : UInt32
  deriving Repr, DecidableEq

def ChildEntry.empty : ChildEntry where
  used := false
  pid := 0
  status := 0

/--
The kernel's words about the running process, its children and its suspended
parent: `process` is `STATE`, `pending` is `PENDING_SIGNALS`, `fsBase` is the
machine register, and the words from `childActive` on are
`vibux_vfork_child_active`, `vibux_vfork_child_pid`,
`vibux_vfork_child_exit_code`, `vibux_vfork_child_status`,
`vibux_vfork_child_valid`, `PARENT_STATE`, `vibux_vfork_parent_cr3` and
`vibux_vfork_parent_fs_base`.
-/
structure Machine where
  process : ProcessState
  pending : UInt64
  fsBase : UInt64
  space : AddressSpace
  bytes : UInt64 → UInt8
  nextPid : UInt64
  children : List ChildEntry
  childActive : Bool
  childPid : UInt64
  childExitCode : UInt64
  childStatus : UInt32
  childValid : Bool
  parentState : ProcessState
  parentCr3 : UInt64
  parentFsBase : UInt64

/-- The calls; they fail with a positive error number. -/
abbrev Sys := Prog Machine UInt64

/-- `copy_user_out`, any failure as `EFAULT` -/
def copyOut (address : UInt64) (input : List UInt8) : Sys Unit :=
  fun machine =>
    match
      copyUserOut machine.space address input
        (.start machine.bytes fun _ => 0)
    with
    | .ok _ final => .ok () { machine with bytes := final.bytes }
    | .err _ final => .err efault { machine with bytes := final.bytes }
    | .hang => .hang

def switchCr3 (cr3 : UInt64) : Sys Unit :=
  Prog.modify fun machine =>
    { machine with space := { machine.space with cr3 := cr3 } }

/-! ## The table of exited children -/

def pushExitedChild (pid : UInt64) (status : UInt32) : Sys Unit :=
  Prog.modify fun machine =>
    { machine with
      children :=
        Slots.put ChildEntry.used ⟨true, pid, status⟩ machine.children }

def ChildEntry.requested (requestedPid : Int32) (slot : ChildEntry) : Bool :=
  requestedPid ≤ 0 || slot.pid == requestedPid.toInt64.toUInt64

def takeExitedChild (requestedPid : Int32) : Sys (Option ChildEntry) :=
  fun machine =>
    let (entry, children) :=
      Slots.take ChildEntry.used (ChildEntry.requested requestedPid)
        ChildEntry.empty machine.children
    .ok entry { machine with children := children }

/-! ## Forks -/

/-- `snapshot_process_state_into` the save area -/
def snapshotProcessStateInto : Sys Unit :=
  Prog.modify fun machine =>
    let process := { machine.process with pendingSignals := machine.pending }
    { machine with
      process
      parentState := process }

def restoreProcessState (snapshot : ProcessState) : Sys Unit :=
  Prog.modify fun machine =>
    { machine with
      process := snapshot
      pending := snapshot.pendingSignals }

def clearExitState : Sys Unit :=
  Prog.modify fun machine =>
    { machine with
      process :=
        { machine.process with
          exitRequested := false
          exitCode := 0 } }

def setPid (pid : UInt64) : Sys Unit :=
  Prog.modify fun machine =>
    { machine with process := { machine.process with pid := pid } }

/-- Keep the parent, draw a pid and mark the child as running. -/
def startChild : Sys UInt64 := do
  snapshotProcessStateInto
  Prog.modify fun machine =>
    { machine with
      parentCr3 := machine.space.cr3
      parentFsBase := machine.fsBase }
  let childPid ← Prog.gets Machine.nextPid
  Prog.modify fun machine =>
    { machine with
      nextPid := machine.nextPid + 1
      childPid := childPid
      childExitCode := 0
      childStatus := 0
      childValid := false
      childActive := true }
  pure childPid

/--
`do_fork` up to the first instruction of the child; `childCr3` is what
`clone_user_address_space` returns.
-/
def doFork (childCr3 : Option UInt64) : Sys UInt64 := do
  let active ← Prog.gets Machine.childActive
  if active then
    Prog.fail eagain
  else do
    let childPid ← startChild
    match childCr3 with
    | none => do
        Prog.modify fun machine => { machine with childActive := false }
        Prog.fail enomem
    | some cr3 => do
        setPid childPid
        switchCr3 cr3
        pure childPid

/-- `do_vfork` up to the first instruction of the child -/
def doVfork : Sys UInt64 := do
  let active ← Prog.gets Machine.childActive
  if active then
    Prog.fail eagain
  else do
    let childPid ← startChild
    setPid childPid
    pure childPid

/-- The status of an exit code, as `wait4` reports it. -/
def statusOf (code : UInt64) : UInt32 :=
  (code.toUInt32 &&& 0xFF) <<< 8

/-- `vibux_vfork_child_exit` -/
def vforkChildExit (code : UInt64) : Sys Unit := do
  Prog.modify fun machine =>
    { machine with
      childExitCode := code
      childStatus := statusOf code
      childValid := true }
  let parentCr3 ← Prog.gets Machine.parentCr3
  if parentCr3 ≠ 0 then
    switchCr3 parentCr3
  else
    pure ()
  let parentState ← Prog.gets Machine.parentState
  restoreProcessState parentState
  clearExitState
  Prog.modify fun machine => { machine with fsBase := machine.parentFsBase }
  let machine ← Prog.gets id
  pushExitedChild machine.childPid machine.childStatus
  Prog.modify fun machine => { machine with childActive := false }

/-- The exit of a process; without a parent it ends the run. -/
def exit (code : UInt64) : Sys Unit := do
  let active ← Prog.gets Machine.childActive
  if active then
    vforkChildExit code
  else
    Prog.hang

/-! ## Waiting -/

/-- A copy to user memory that is left out for the address 0. -/
def copyOutIfGiven (address : UInt64) (input : List UInt8) : Sys Unit :=
  if address ≠ 0 then
    copyOut address input
  else
    pure ()

/-- `to_le_bytes` of a status -/
def statusBytes (status : UInt32) : List UInt8 :=
  (List.range 4).map (leByte status.toUInt64)

/-- The entry that `wait4` reports; none stands for the 0 of `WNOHANG`. -/
def waitForChild
    (requestedPid : Int32)
    (statusAddress options rusageAddress : UInt64) :
    Sys (Option ChildEntry) := do
  let taken ← takeExitedChild requestedPid
  match taken with
  | some entry => do
      copyOutIfGiven statusAddress (statusBytes entry.status)
      copyOutIfGiven rusageAddress (List.replicate 144 0)
      pure (some entry)
  | none =>
      if options &&& 1 ≠ 0 then
        pure none
      else
        Prog.fail echild

def wait4
    (requestedPid : Int32)
    (statusAddress options rusageAddress : UInt64) :
    Sys UInt64 := do
  let reported ←
    waitForChild requestedPid statusAddress options rusageAddress
  match reported with
  | some entry => pure entry.pid
  | none => pure 0

/-! ## A new program -/

/-- `reset_process_for_exec`, as far as the state of the process goes -/
def resetProcessForExec : Sys Unit :=
  Prog.modify fun machine =>
    let process := machine.process.init
    { machine with
      pending := 0
      process :=
        { process with
          nextMmap := mmapBase
          brk := heapBase
          fsBase := 0
          exitRequested := false
          exitCode := 0
          signalActions := fun _ => Signals.SignalAction.empty
          pendingSignals := 0
          tidAddress := 0
          robustList := 0
          robustLen := 0
          rseq := 0
          rseqLen := 0
          cwd := home
          fds := fun index =>
            let fd := process.fds index
            if 3 ≤ index ∧ fd.used = true ∧ fd.flags &&& oCloexec ≠ 0 then
              Files.Fd.empty
            else
              fd } }

/-- `execve` as far as it gets to `reset_process_for_exec` -/
def execve (cr3 : UInt64) : Sys Unit := do
  let active ← Prog.gets Machine.childActive
  if active = false then
    Prog.fail enosys
  else do
    switchCr3 cr3
    resetProcessForExec

end VibuxOS.Process
