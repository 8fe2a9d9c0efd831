import VibuxOS.Process.Children

namespace VibuxOS.Process

open VibuxOS.Lib VibuxOS.Paging

/-!
# `clone` and `clone3`

Both calls drive `do_fork` and `do_vfork` of `process.rs`.  The parent is
suspended inside the call: `vibux_enter_vfork_child` loads the registers that a
frame holds and starts the child, and the call goes on once the child has
exited.  What the child does until then is a parameter of the model, and so is
the copy of the address space.

A frame is given by its address.  An access through a null pointer is an exit
of its own.
-/

/-- What `frame: *mut SyscallFrame` points to. -/
inductive FramePointer where
  | null
  | saved
  deriving Repr, DecidableEq

/-- An access that must not happen. -/
inductive Fault where
  | nullFrame
  deriving Repr, DecidableEq

/--
The kernel while it runs a call: `frame` are the registers that the entry code
saved, `savedUserRsp` is `SYSCALL_SAVED_RSP`, `syscallSavedRsp` and
`parentUserRsp` are `vibux_syscall_saved_rsp` and
`vibux_vfork_parent_user_rsp`.  A snapshot is there while it is valid.
-/
structure Cloning where
  machine : Machine
  frame : Signals.SyscallFrame
  savedUserRsp : UInt64
  syscallSavedRsp : UInt64
  parentUserRsp : UInt64
  stackShared : Bool
  stackSnapshot : Option (List UInt8)
  tlsSnapshot : Option (List UInt8)

/-- A call returns its result. -/
abbrev Clone := Prog Cloning Fault

/-- The registers and the stack pointer that a child starts with. -/
structure ChildStart where
  registers : Signals.SyscallFrame
  rsp : UInt64

/--
The surroundings of a call: `child` is the exit code of a child and what it
leaves, none if it never exits, and `cloneUserAddressSpace` is the root that
`clone_user_address_space` returns, none if memory runs out.
-/
structure Surroundings where
  child : ChildStart → Cloning → Option (UInt64 × Cloning)
  cloneUserAddressSpace : Machine → Option UInt64

def vforkStackTop : UInt64 := 0x00007F0000000000

/-- The pages of `VFORK_STACK_BYTES`. -/
def vforkStackPages : Nat := 64

def vforkStackBytes : Nat := vforkStackPages * 4096

def vforkStackBottom : UInt64 := vforkStackTop - UInt64.ofNat vforkStackBytes

def tlsBase : UInt64 := 0x00005FFF00000000

/-- `CLONE_VFORK`, as the calls test it -/
def cloneVfork : UInt64 := 0x100

/-! ## Memory -/

/-- Run a call on the machine; a failure is a value. -/
def onMachine {α : Type} (program : Sys α) : Clone (Except UInt64 α) :=
  Prog.onPart Cloning.machine
    (fun machine state => { state with machine := machine })
    (Prog.attempt program)

/-- `copy_user_in` of `len` bytes -/
def copyIn (address : UInt64) (len : Nat) : Clone (Except UInt64 (Nat → UInt8)) :=
  fun state =>
    match
      copyUserIn state.machine.space address len
        (.start state.machine.bytes fun _ => 0)
    with
    | .ok _ last => .ok (.ok last.output) state
    | .err code _ => .ok (.error code) state
    | .hang => .hang

/-- `copy_nonoverlapping` out of the address space in force -/
def loadRange (address : UInt64) (amount : Nat) : Clone (List UInt8) :=
  fun state =>
    match
      loadBytes state.machine.space address amount
        (.start state.machine.bytes fun _ => 0)
    with
    | .ok bytes _ => .ok bytes state
    | .err _ _ => .hang
    | .hang => .hang

/-- `copy_nonoverlapping` into the address space in force -/
def storeRange (address : UInt64) (input : List UInt8) : Clone Unit :=
  fun state =>
    match
      storeBytes state.machine.space address input
        (.start state.machine.bytes fun _ => 0)
    with
    | .ok _ last =>
        .ok () { state with machine := { state.machine with bytes := last.bytes } }
    | .err _ _ => .hang
    | .hang => .hang

/-! ## The snapshot of a shared stack -/

/-- The test that every page of the stack is mapped. -/
def stackMapped (space : AddressSpace) : Bool :=
  (List.range vforkStackPages).all fun page =>
    (space.translate (vforkStackBottom + UInt64.ofNat (page * 4096))).isSome

/-- The copy of the page of thread-local storage. -/
def snapshotTls : Clone Unit := do
  let space ← Prog.gets fun state => state.machine.space
  if (space.translate tlsBase).isSome then do
    let tls ← loadRange tlsBase 4096
    Prog.modify fun state => { state with tlsSnapshot := some tls }
  else
    pure ()

def snapshotVforkSharedMemory (parentRsp : UInt64) : Clone Unit := do
  Prog.modify fun state =>
    { state with
      stackShared := false
      stackSnapshot := none
      tlsSnapshot := none }
  let space ← Prog.gets fun state => state.machine.space
  if parentRsp < vforkStackBottom ∨ vforkStackTop ≤ parentRsp then
    pure ()
  else if stackMapped space then do
    let stack ← loadRange vforkStackBottom vforkStackBytes
    Prog.modify fun state =>
      { state with
        stackShared := true
        stackSnapshot := some stack }
    snapshotTls
  else
    pure ()

/-- Put a valid snapshot back. -/
def restoreRange (address : UInt64) (snapshot : Option (List UInt8)) : Clone Unit :=
  match snapshot with
  | some input => storeRange address input
  | none => pure ()

def restoreVforkSharedMemory : Clone Unit := do
  let before ← Prog.gets id
  restoreRange vforkStackBottom before.stackSnapshot
  restoreRange tlsBase before.tlsSnapshot
  Prog.modify fun state =>
    { state with
      stackShared := false
      stackSnapshot := none
      tlsSnapshot := none }

/-! ## The child -/

/-- The registers behind a frame pointer. -/
def readFrame (frame : FramePointer) : Clone Signals.SyscallFrame :=
  match frame with
  | .null => Prog.fail .nullFrame
  | .saved => Prog.gets Cloning.frame

/-- `frame.as_mut().unwrap().rax = result` -/
def setResult (frame : FramePointer) (result : UInt64) : Clone Unit :=
  match frame with
  | .null => Prog.fail .nullFrame
  | .saved =>
      Prog.modify fun state =>
        { state with frame := { state.frame with rax := result } }

/-- The child runs until `vibux_vfork_exit_fast` has ended it. -/
def runChild (surroundings : Surroundings) (start : ChildStart) : Clone Unit :=
  fun state =>
    match surroundings.child start state with
    | none => .hang
    | some (code, left) =>
        (do
          let _ ← onMachine (vforkChildExit code)
          Prog.modify fun state : Cloning =>
            { state with syscallSavedRsp := state.parentUserRsp }) left

/-- `vibux_enter_vfork_child` -/
def enterVforkChild
    (surroundings : Surroundings)
    (frame : FramePointer)
    (stack : UInt64) :
    Clone Unit := do
  Prog.modify fun state =>
    { state with parentUserRsp := state.syscallSavedRsp }
  let registers ← readFrame frame
  runChild surroundings ⟨{ registers with rax := 0 }, stack⟩

def childRsp (state : Cloning) (childStack : UInt64) : UInt64 :=
  if childStack ≠ 0 then childStack else state.savedUserRsp

/-! ## Forks -/

/-- A fork from the first instruction of the child on. -/
def finishFork
    (surroundings : Surroundings)
    (frame : FramePointer)
    (childStack childPid : UInt64) :
    Clone UInt64 := do
  let before ← Prog.gets id
  enterVforkChild surroundings frame (childRsp before childStack)
  setResult frame childPid
  pure childPid

/-- `do_fork` -/
def doForkCall
    (surroundings : Surroundings)
    (frame : FramePointer)
    (childStack : UInt64) :
    Clone UInt64 := do
  let before ← Prog.gets id
  let started ←
    onMachine (doFork (surroundings.cloneUserAddressSpace before.machine))
  match started with
  | .error code => pure (negErrno code)
  | .ok childPid => finishFork surroundings frame childStack childPid

def snapshotUnlessStack (childStack parentRsp : UInt64) : Clone Unit :=
  if childStack = 0 then snapshotVforkSharedMemory parentRsp else pure ()

/-- The snapshot is put back. -/
def restoreUnlessStack (childStack : UInt64) : Clone Unit :=
  if childStack = 0 then restoreVforkSharedMemory else pure ()

/-- A vfork from the first instruction of the child on. -/
def finishVfork
    (surroundings : Surroundings)
    (frame : FramePointer)
    (childStack childPid : UInt64) :
    Clone UInt64 := do
  let before ← Prog.gets id
  snapshotUnlessStack childStack before.savedUserRsp
  enterVforkChild surroundings frame (childRsp before childStack)
  restoreUnlessStack childStack
  setResult frame childPid
  pure childPid

/-- `do_vfork` -/
def doVforkCall
    (surroundings : Surroundings)
    (frame : FramePointer)
    (childStack : UInt64) :
    Clone UInt64 := do
  let started ← onMachine doVfork
  match started with
  | .error code => pure (negErrno code)
  | .ok childPid => finishVfork surroundings frame childStack childPid

/-- The choice that both calls make. -/
def forkOrVfork
    (surroundings : Surroundings)
    (frame : FramePointer)
    (flags childStack : UInt64) :
    Clone UInt64 :=
  if flags &&& cloneVfork ≠ 0 then
    doVforkCall surroundings frame childStack
  else
    doForkCall surroundings frame childStack

/-- The `clone` arm of `syscall` -/
def clone
    (surroundings : Surroundings)
    (flags childStack : UInt64) :
    Clone UInt64 :=
  forkOrVfork surroundings .saved flags childStack

/-- `clone3_impl` -/
def clone3
    (surroundings : Surroundings)
    (argsPtr : UInt64) :
    Clone UInt64 :=
  if argsPtr = 0 then
    pure (negErrno efault)
  else do
    let copied ← copyIn argsPtr 88
    match copied with
    | .error _ => pure (negErrno efault)
    | .ok raw =>
        let childStack := getU64 raw 8
        let flags := getU64 raw 0
        forkOrVfork surroundings .null flags childStack

end VibuxOS.Process
