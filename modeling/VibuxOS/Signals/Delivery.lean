import VibuxOS.Lib.Record
import VibuxOS.Paging.UserCopy

namespace VibuxOS.Signals

open VibuxOS.Lib VibuxOS.Paging

/-!
# Signals

`rt_sigaction`, `rt_sigprocmask`, the delivery of a signal and `rt_sigreturn`
of `arch/x86_64/syscall.rs`, with the stack pointers that its entry code saves
and the children of `process.rs`.

A signal frame is written to and read from user memory.  The part of
`ProcessState` that no signal call reads is left out.
-/

def sigDfl : UInt64 := 0

def sigIgn : UInt64 := 1

def sigkill : UInt64 := 9

def sigsegv : UInt64 := 11

def sigchld : UInt64 := 17

def sigcont : UInt64 := 18

def sigstop : UInt64 := 19

def sigurg : UInt64 := 23

def sigwinch : UInt64 := 28

def saNodefer : UInt64 := 0x40000000

def saResethand : UInt64 := 0x80000000

def userCs : UInt64 := 0x23

def userSs : UInt64 := 0x1b

def rflagsUser : UInt64 := 0x202

def eagain : UInt64 := 11

def enomem : UInt64 := 12

structure SignalAction where
  handler : UInt64
  flags : UInt64
  restorer : UInt64
  mask : UInt64

def SignalAction.empty : SignalAction where
  handler := 0
  flags := 0
  restorer := 0
  mask := 0

/-- The registers that the entry code saves. -/
structure SyscallFrame where
  r15 : UInt64
  r14 : UInt64
  r13 : UInt64
  r12 : UInt64
  r10 : UInt64
  r9 : UInt64
  r8 : UInt64
  rdi : UInt64
  rsi : UInt64
  rbp : UInt64
  rbx : UInt64
  rdx : UInt64
  rax : UInt64
  syscallR11 : UInt64
  syscallRcx : UInt64

/-- What `ProcessState` holds about signals. -/
structure ProcessState where
  signalMask : UInt64
  pendingSignals : UInt64
  signalActions : Nat → SignalAction
  exitRequested : Bool
  exitCode : Nat
  pid : UInt64

def ProcessState.new : ProcessState where
  signalMask := 0
  pendingSignals := 0
  signalActions := fun _ => SignalAction.empty
  exitRequested := false
  exitCode := 0
  pid := 1

/--
The running process, the words that the entry code shares with the calls, and
what is kept of a parent while its child runs.  `savedRsp` is
`vibux_syscall_saved_rsp`, `childSavedRsp` is `vibux_child_syscall_saved_rsp`
and `syscallSavedRsp` is `SYSCALL_SAVED_RSP`.
-/
structure Machine where
  process : ProcessState
  pending : UInt64
  fsBase : UInt64
  syscallSavedRsp : UInt64
  savedRsp : UInt64
  childSavedRsp : UInt64
  childActive : Bool
  nextPid : UInt64
  parentState : ProcessState
  parentCr3 : UInt64
  parentFsBase : UInt64
  parentUserRsp : UInt64
  space : AddressSpace
  bytes : UInt64 → UInt8

/-- The calls; they fail with a positive error number. -/
abbrev Sys := Prog Machine UInt64

/-! ## User memory -/

/-- `copy_user_in` into a fresh buffer, any failure as `EFAULT` -/
def copyIn (address : UInt64) (len : Nat) : Sys (Nat → UInt8) :=
  fun machine =>
    match
      copyUserIn machine.space address len
        (.start machine.bytes fun _ => 0)
    with
    | .ok _ final => .ok final.output machine
    | .err _ _ => .err efault machine
    | .hang => .hang

/-- `copy_user_out`, any failure as `EFAULT` -/
def copyOut (address : UInt64) (input : List UInt8) : Sys Unit :=
  fun machine =>
    match
      copyUserOut machine.space address input
        (.start machine.bytes fun _ => 0)
    with
    | .ok _ final => .ok () { machine with bytes := final.bytes }
    | .err _ final => .err efault { machine with bytes := final.bytes }
    | .hang => .hang

/-! ## Masks and actions -/

def signalBit (signum : UInt64) : UInt64 := 1 <<< (signum - 1)

def signalDefaultIgnored (signum : UInt64) : Bool :=
  signum == sigchld || signum == sigcont || signum == sigurg ||
    signum == sigwinch

/-- Replace the mask. -/
def setMask (mask : UInt64) : Sys Unit :=
  Prog.modify fun machine =>
    { machine with process := { machine.process with signalMask := mask } }

def signalActionSet (index : Nat) (action : SignalAction) : Sys Unit :=
  Prog.modify fun machine =>
    { machine with
      process :=
        { machine.process with
          signalActions :=
            Function.update machine.process.signalActions index action } }

/-- A step that is left out for a zero word. -/
def unlessZero (word : UInt64) (program : Sys Unit) : Sys Unit :=
  if word ≠ 0 then
    program
  else
    pure ()

/-- The four words of an action in user memory. -/
def actionFields (action : SignalAction) : List Field :=
  [⟨0, 8, action.handler⟩, ⟨8, 8, action.flags⟩, ⟨16, 8, action.restorer⟩,
    ⟨24, 8, action.mask⟩]

def firstBytes (bytes : Nat → UInt8) (len : Nat) : List UInt8 :=
  (List.range len).map bytes

def rtSigactionImpl
    (signum newAction oldAction sigsetsize : UInt64) :
    Sys UInt64 :=
  if signum = 0 ∨ signum > 64 ∨ sigsetsize ≠ 8 ∨ signum = sigkill ∨
      signum = sigstop then
    Prog.fail einval
  else do
    let index := (signum - 1).toNat
    unlessZero oldAction do
      let action ←
        Prog.gets fun machine => machine.process.signalActions index
      copyOut oldAction
        (firstBytes (record (fun _ => 0) (actionFields action)) 32)
    unlessZero newAction do
      let raw ← copyIn newAction 32
      signalActionSet index
        { handler := getU64 raw 0
          flags := getU64 raw 8
          restorer := getU64 raw 16
          mask := getU64 raw 24 }
    pure 0

def rtSigprocmaskImpl
    (how set oldset sigsetsize : UInt64) :
    Sys UInt64 :=
  if sigsetsize ≠ 8 then
    Prog.fail einval
  else do
    unlessZero oldset do
      let mask ← Prog.gets fun machine => machine.process.signalMask
      copyOut oldset (firstBytes (record (fun _ => 0) [⟨0, 8, mask⟩]) 8)
    unlessZero set do
      let raw ← copyIn set 8
      let value :=
        getU64 raw 0 &&& ~~~signalBit sigkill &&& ~~~signalBit sigstop
      let mask ← Prog.gets fun machine => machine.process.signalMask
      if how = 0 then
        setMask (mask ||| value)
      else if how = 1 then
        setMask (mask &&& ~~~value)
      else if how = 2 then
        setMask value
      else
        Prog.fail einval
    pure 0

/-! ## Pending signals -/

def raiseSignal (signum : UInt64) : Sys Bool :=
  if signum = 0 ∨ signum > 64 then
    pure false
  else do
    Prog.modify fun machine =>
      { machine with pending := machine.pending ||| signalBit signum }
    pure true

/-- `PENDING_SIGNALS.fetch_and(!bit)` -/
def clearPending (signum : UInt64) : Sys Unit :=
  Prog.modify fun machine =>
    { machine with pending := machine.pending &&& ~~~signalBit signum }

/-- The number of the lowest signal in a set, if any. -/
def lowestSignal (set : UInt64) : Option UInt64 :=
  ((List.range 64).map fun index => UInt64.ofNat index + 1).find?
    fun signum => set &&& signalBit signum != 0

def SignalAction.ignores (action : SignalAction) (signum : UInt64) : Bool :=
  action.handler == sigIgn ||
    (action.handler == sigDfl && signalDefaultIgnored signum)

/-- The loop of `take_deliverable_signal`. -/
def takeDeliverableSignalLoop : Nat → Sys (Option UInt64)
  | 0 => Prog.hang
  | fuel + 1 => do
      let machine ← Prog.gets id
      match lowestSignal (machine.pending &&& ~~~machine.process.signalMask)
      with
      | none => pure none
      | some signum =>
          let action := machine.process.signalActions (signum - 1).toNat
          if action.ignores signum then do
            clearPending signum
            takeDeliverableSignalLoop fuel
          else do
            clearPending signum
            pure (some signum)

/-- `take_deliverable_signal`; every turn of the loop clears one of 64 bits. -/
def takeDeliverableSignal : Sys (Option UInt64) :=
  takeDeliverableSignalLoop 65

def terminateForSignal (signum : UInt64) : Sys Unit :=
  Prog.modify fun machine =>
    { machine with
      process :=
        { machine.process with
          exitCode := 128 + min signum.toNat 127
          exitRequested := true } }

/-! ## Saved stack pointers -/

def savedUserRsp : Sys UInt64 :=
  Prog.gets Machine.syscallSavedRsp

def setSavedUserRsp (value : UInt64) : Sys Unit :=
  Prog.modify fun machine =>
    if machine.childActive then
      { machine with syscallSavedRsp := value, childSavedRsp := value }
    else
      { machine with syscallSavedRsp := value, savedRsp := value }

/-- What `vibux_syscall_entry` and `vibux_child_syscall_entry` save. -/
def Machine.entered (rsp : UInt64) (machine : Machine) : Machine :=
  if machine.childActive then
    { machine with childSavedRsp := rsp }
  else
    { machine with savedRsp := rsp, syscallSavedRsp := rsp }

/-- The stack pointer with which the entry code returns to the user. -/
def Machine.userRsp (machine : Machine) : UInt64 :=
  if machine.childActive then
    machine.childSavedRsp
  else
    machine.savedRsp

/-! ## Signal frames -/

def rtSigframeSize : Nat := 560

def sigfpstateSize : Nat := 512

def ucMcontext : Nat := 48

def ucSigmask : Nat := 304

def siginfoOffset : Nat := 432

def putU64 (offset : Nat) (value : UInt64) : Field := ⟨offset, 8, value⟩

/-- `put_u32` of a value that is cut to 32 bits -/
def putU32 (offset : Nat) (value : UInt64) : Field := ⟨offset, 4, value⟩

/-- The fields that `build_signal_frame` puts into a frame. -/
def frameFields
    (frame : SyscallFrame)
    (signum : UInt64)
    (action : SignalAction)
    (oldMask oldRsp frameBase fsBase pid : UInt64) :
    List Field :=
  [putU64 0 action.restorer,
    putU64 8 0,
    putU64 16 0,
    putU64 (ucMcontext + 0) frame.r8,
    putU64 (ucMcontext + 8) frame.r9,
    putU64 (ucMcontext + 16) frame.r10,
    putU64 (ucMcontext + 24) frame.syscallR11,
    putU64 (ucMcontext + 32) frame.r12,
    putU64 (ucMcontext + 40) frame.r13,
    putU64 (ucMcontext + 48) frame.r14,
    putU64 (ucMcontext + 56) frame.r15,
    putU64 (ucMcontext + 64) frame.rdi,
    putU64 (ucMcontext + 72) frame.rsi,
    putU64 (ucMcontext + 80) frame.rbp,
    putU64 (ucMcontext + 88) frame.rbx,
    putU64 (ucMcontext + 96) frame.rdx,
    putU64 (ucMcontext + 104) frame.rax,
    putU64 (ucMcontext + 112) frame.syscallRcx,
    putU64 (ucMcontext + 120) oldRsp,
    putU64 (ucMcontext + 128) frame.syscallRcx,
    putU64 (ucMcontext + 136) frame.syscallR11,
    putU64 (ucMcontext + 144) (userCs ||| (userSs <<< 48)),
    putU64 (ucMcontext + 152) 0,
    putU64 (ucMcontext + 160) 0,
    putU64 (ucMcontext + 168) oldMask,
    putU64 (ucMcontext + 176) 0,
    putU64 (ucMcontext + 184) (frameBase + UInt64.ofNat rtSigframeSize),
    putU64 (ucMcontext + 192) fsBase,
    putU64 ucSigmask oldMask,
    putU32 siginfoOffset signum,
    putU32 (siginfoOffset + 4) 0,
    putU32 (siginfoOffset + 8) 0,
    putU32 (siginfoOffset + 16) pid,
    putU32 (siginfoOffset + 20) 1000]

/-- A range of a frame that user code may have on its stack. -/
def outsideUser (frameBase stop : UInt64) : Bool :=
  frameBase < 0x1000 || stop > userLimit

/-- The place of a frame below the stack pointer, with its end. -/
def framePlace (oldRsp : UInt64) : Option (UInt64 × UInt64) := do
  let total := UInt64.ofNat (rtSigframeSize + sigfpstateSize)
  let raw ← checkedSub oldRsp (total + 128)
  let frameBase ← checkedSub (raw &&& ~~~15) 8
  let stop ← checkedAdd frameBase total
  some (frameBase, stop)

def buildSignalFrame
    (frame : SyscallFrame)
    (signum : UInt64)
    (action : SignalAction)
    (oldMask oldRsp : UInt64) :
    Sys UInt64 :=
  if action.restorer = 0 then
    Prog.fail einval
  else
    match framePlace oldRsp with
    | none => Prog.fail efault
    | some (frameBase, stop) =>
        if outsideUser frameBase stop then
          Prog.fail efault
        else do
          let machine ← Prog.gets id
          copyOut frameBase
            (firstBytes
              (record (fun _ => 0)
                (frameFields frame signum action oldMask oldRsp frameBase
                  machine.fsBase machine.process.pid))
              rtSigframeSize)
          copyOut (frameBase + UInt64.ofNat rtSigframeSize)
            (List.replicate sigfpstateSize 0)
          pure frameBase

/-- The frame at which `rt_sigreturn` looks. -/
def returnPlace (userRsp : UInt64) : Option UInt64 := do
  let frameBase ← checkedSub userRsp 8
  let stop ← checkedAdd frameBase (UInt64.ofNat rtSigframeSize)
  if outsideUser frameBase stop then
    none
  else
    some frameBase

/-- The words with which `rt_sigreturn` does not return to the user. -/
def refuses (csgsfs rip rsp rflags : UInt64) : Bool :=
  let bit (position : UInt64) : UInt64 := 1 <<< position
  csgsfs &&& 0xffff != userCs || (csgsfs >>> 48) &&& 0xffff != userSs ||
    rip == 0 || rsp == 0 || rip ≥ userLimit || rsp ≥ userLimit ||
    rflags &&& bit 13 != 0 || rflags &&& bit 14 != 0 ||
    rflags &&& bit 17 != 0

def frameRegisters (data : Nat → UInt8) : SyscallFrame where
  r8 := getU64 data (ucMcontext + 0)
  r9 := getU64 data (ucMcontext + 8)
  r10 := getU64 data (ucMcontext + 16)
  r12 := getU64 data (ucMcontext + 32)
  r13 := getU64 data (ucMcontext + 40)
  r14 := getU64 data (ucMcontext + 48)
  r15 := getU64 data (ucMcontext + 56)
  rdi := getU64 data (ucMcontext + 64)
  rsi := getU64 data (ucMcontext + 72)
  rbp := getU64 data (ucMcontext + 80)
  rbx := getU64 data (ucMcontext + 88)
  rdx := getU64 data (ucMcontext + 96)
  rax := getU64 data (ucMcontext + 104)
  syscallRcx := getU64 data (ucMcontext + 128)
  syscallR11 := getU64 data (ucMcontext + 136) ||| rflagsUser

/--
`rt_sigreturn_impl`; the registers it leaves for the return to the user, of
which `rax` is its result.
-/
def rtSigreturnImpl : Sys SyscallFrame := do
  let userRsp ← savedUserRsp
  match returnPlace userRsp with
  | none => Prog.fail efault
  | some frameBase => do
      let data ← copyIn frameBase rtSigframeSize
      let rsp := getU64 data (ucMcontext + 120)
      let rip := getU64 data (ucMcontext + 128)
      let rflags := getU64 data (ucMcontext + 136)
      let csgsfs := getU64 data (ucMcontext + 144)
      let fs := getU64 data (ucMcontext + 192)
      let savedMask := getU64 data ucSigmask
      if refuses csgsfs rip rsp rflags then
        Prog.fail efault
      else do
        setSavedUserRsp rsp
        Prog.modify fun machine =>
          { machine with
            fsBase := fs
            process :=
              { machine.process with
                signalMask := savedMask
                pendingSignals := machine.pending } }
        pure (frameRegisters data)

/-! ## Delivery -/

/-- The mask while a handler runs. -/
def handlerMask
    (oldMask signum : UInt64)
    (action : SignalAction) :
    UInt64 :=
  let mask := oldMask ||| action.mask
  let mask :=
    if action.flags &&& saNodefer = 0 then
      mask ||| signalBit signum
    else
      mask
  mask &&& ~~~signalBit sigkill &&& ~~~signalBit sigstop

/-- `child_saved_user_rsp` in a child, `saved_user_rsp` otherwise -/
def Machine.deliveryRsp (machine : Machine) : UInt64 :=
  if machine.childActive then
    machine.childSavedRsp
  else
    machine.syscallSavedRsp

/-- `deliver_pending_signal`; the registers it leaves. -/
def deliverPendingSignal (frame : SyscallFrame) : Sys SyscallFrame := do
  let taken ← takeDeliverableSignal
  match taken with
  | none => pure frame
  | some signum => do
      let index := (signum - 1).toNat
      let machine ← Prog.gets id
      let action := machine.process.signalActions index
      if action.handler = sigDfl then do
        terminateForSignal signum
        pure frame
      else if action.handler = sigIgn then
        pure frame
      else do
        let oldMask := machine.process.signalMask
        let built ←
          Prog.attempt
            (buildSignalFrame frame signum action oldMask machine.deliveryRsp)
        match built with
        | .error _ => do
            terminateForSignal sigsegv
            pure frame
        | .ok frameBase => do
            setMask (handlerMask oldMask signum action)
            unlessZero (action.flags &&& saResethand)
              (signalActionSet index SignalAction.empty)
            setSavedUserRsp frameBase
            pure
              { frame with
                rdi := signum
                rsi := frameBase + UInt64.ofNat siginfoOffset
                rdx := frameBase + 8
                syscallRcx := action.handler
                syscallR11 := rflagsUser }

/-! ## Children -/

/-- `snapshot_process_state_into`, with the words that are kept beside it. -/
def snapshotParent : Sys Unit :=
  Prog.modify fun machine =>
    let process :=
      { machine.process with pendingSignals := machine.pending }
    { machine with
      process
      parentState := process
      parentCr3 := machine.space.cr3
      parentFsBase := machine.fsBase }

/-- `set_pid` and `vibux_enter_vfork_child`, on the tables of the child -/
def enterChild (pid cr3 : UInt64) : Sys UInt64 := do
  Prog.modify fun machine =>
    { machine with
      process := { machine.process with pid := pid }
      nextPid := pid + 1
      childActive := true
      parentUserRsp := machine.savedRsp
      space := { machine.space with cr3 := cr3 } }
  pure 0

/-- `do_fork`; `childCr3` is what `clone_user_address_space` returns. -/
def doFork (childCr3 : Option UInt64) : Sys UInt64 := do
  let machine ← Prog.gets id
  if machine.childActive then
    Prog.fail eagain
  else do
    snapshotParent
    match childCr3 with
    | none => do
        Prog.modify fun machine =>
          { machine with nextPid := machine.nextPid + 1 }
        Prog.fail enomem
    | some cr3 => enterChild machine.nextPid cr3

def doVfork : Sys UInt64 := do
  let machine ← Prog.gets id
  if machine.childActive then
    Prog.fail eagain
  else do
    snapshotParent
    enterChild machine.nextPid machine.space.cr3

/-- `vibux_vfork_exit_fast`; the exit of a process without a parent ends the run. -/
def vforkChildExit : Sys Unit := do
  let machine ← Prog.gets id
  if machine.childActive then
    Prog.modify fun machine =>
      { machine with
        process :=
          { machine.parentState with
            exitRequested := false
            exitCode := 0 }
        pending := machine.parentState.pendingSignals
        fsBase := machine.parentFsBase
        childActive := false
        savedRsp := machine.parentUserRsp
        space :=
          { machine.space with
            cr3 :=
              if machine.parentCr3 ≠ 0 then
                machine.parentCr3
              else
                machine.space.cr3 } }
  else
    Prog.hang

/-- What `reset_process_for_exec` does to the signals. -/
def resetProcessForExec : Sys Unit :=
  Prog.modify fun machine =>
    { machine with
      process :=
        { machine.process with
          signalActions := fun _ => SignalAction.empty
          pendingSignals := 0
          exitRequested := false
          exitCode := 0 }
      pending := 0 }

end VibuxOS.Signals
