import VibuxOS.Lib.Contents
import VibuxOS.Signals.Delivery
import VibuxOS.Syscall.Pipes

namespace VibuxOS.Files

open VibuxOS.Lib

/-!
# Descriptors of every kind, and reading from them

`read_fd` of `arch/x86_64/syscall.rs` with the tables of event, timer and signal
descriptors and of RAM files, and the input side of `tty.rs`.

Whether a copy to user memory succeeds depends on the page tables; here it is a
part of the world around a call, like the time, the disk and the fixed tables
of file contents.  What the serial port and the keyboard deliver is a list of
characters; a call that waits for more than they deliver does not return.  A
path is the part of `path` that `path_len` counts.
-/

def eventfdMax : Nat := 16

def timerfdMax : Nat := 16

def signalfdMax : Nat := 16

def ramFileMax : Nat := 16

def ramFileCapacity : Nat := 65536

/-- The error numbers of the modelled calls. -/
inductive Errno where
  | enoent
  | eintr
  | ebadf
  | eagain
  | efault
  | eexist
  | eisdir
  | einval
  | emfile
  | efbig
  | enospc
  | espipe
  | erofs
  | epipe
  | enotconn
  | enotdir
  | enametoolong
  | eperm
  | enomem
  | eafnosupport
  deriving Repr, DecidableEq

/-- The kinds of descriptors. -/
inductive FileKind where
  | none
  | null
  | zero
  | binary
  | text
  | tty
  | pipeRead
  | pipeWrite
  | eventFd
  | timerFd
  | signalFd
  | epoll
  | inotify
  | socket
  | ramFile
  | block
  deriving Repr, DecidableEq

/-- A descriptor. -/
structure Fd where
  used : Bool
  kind : FileKind
  flags : UInt64
  position : UInt64
  path : List UInt8

def Fd.empty : Fd where
  used := false
  kind := .none
  flags := 0
  position := 0
  path := []

/-- `path[0]`, the index of a descriptor in the table of its kind -/
def Fd.id (fd : Fd) : Nat := (fd.path.headD 0).toNat

/-- An entry of `EVENTFDS`. -/
structure EventFdState where
  used : Bool
  counter : UInt64
  semaphore : Bool

/-- An entry of `TIMERFDS`. -/
structure TimerFdState where
  used : Bool
  expiresNs : UInt64
  intervalNs : UInt64
  armed : Bool

/-- An entry of `SIGNALFDS`. -/
structure SignalFdState where
  used : Bool
  mask : UInt64

/-- An entry of `RAM_FILES`. -/
structure RamFile where
  used : Bool
  path : List UInt8
  len : Nat
  mode : UInt32
  data : Nat → UInt8

def RamFile.empty : RamFile where
  used := false
  path := []
  len := 0
  mode := 0o100644
  data := fun _ => 0

/-- The input side of the terminal: `INPUT`, `LINE`, `LFLAG` and its devices. -/
structure Terminal where
  input : List UInt8
  line : List UInt8
  lflag : UInt32
  raw : List UInt8

/--
The running process's descriptors, those of a suspended parent, and the tables
that they refer to.
-/
structure State where
  initialized : Bool
  fds : Nat → Fd
  parent : Option (Nat → Fd)
  cwd : List UInt8
  pipeBuffers : Nat → Syscall.PipeBuffer
  socketPairs : Nat → Syscall.SocketPair
  eventFds : Nat → EventFdState
  timerFds : Nat → TimerFdState
  signalFds : Nat → SignalFdState
  ramFiles : Nat → RamFile
  terminal : Terminal
  process : Signals.ProcessState
  pending : UInt64

/-- The tables as they are set up, for a process without descriptors. -/
def State.new : State where
  initialized := false
  fds := fun _ => Fd.empty
  parent := none
  cwd := []
  pipeBuffers := fun _ => Syscall.PipeBuffer.empty
  socketPairs := fun _ => Syscall.SocketPair.empty
  eventFds := fun _ => { used := false, counter := 0, semaphore := false }
  timerFds :=
    fun _ => { used := false, expiresNs := 0, intervalNs := 0, armed := false }
  signalFds := fun _ => { used := false, mask := 0 }
  ramFiles := fun _ => RamFile.empty
  terminal := { input := [], line := [], lflag := 11, raw := [] }
  process := Signals.ProcessState.new
  pending := 0

/-- A file of the embedded store. -/
structure Binary where
  path : List UInt8
  bytes : List UInt8

/--
What a call finds around it.  `copied offset len` says whether `len` bytes at
an offset from the address of the call can be copied; `source` are the bytes
there.
-/
structure World where
  copied : Nat → Nat → Bool
  source : Nat → UInt8
  nowNs : UInt64
  serialReady : Bool
  binary : List UInt8 → Option Binary
  text : List UInt8 → Option (List UInt8)
  disk : UInt64 → Nat → Option (Nat → UInt8)

/-- Every copy succeeds, and nothing else is to be found. -/
def World.idle : World where
  copied := fun _ _ => true
  source := fun _ => 97
  nowNs := 0
  serialReady := false
  binary := fun _ => none
  text := fun _ => none
  disk := fun _ _ => none

/-- The modelled calls. -/
abbrev Sys := Prog State Errno

namespace State

/-- Put a descriptor at an index. -/
def setFd (index : Nat) (fd : Fd) (state : State) : State :=
  { state with fds := Function.update state.fds index fd }

/-- Move the position of a descriptor. -/
def setPosition (index position : Nat) (state : State) : State :=
  state.setFd index
    { state.fds index with position := UInt64.ofNat position }

/-- Replace an event counter. -/
def setEventFd
    (id : Nat)
    (event : EventFdState)
    (state : State) :
    State :=
  { state with eventFds := Function.update state.eventFds id event }

/-- Replace a timer. -/
def setTimerFd
    (id : Nat)
    (timer : TimerFdState)
    (state : State) :
    State :=
  { state with timerFds := Function.update state.timerFds id timer }

/-- Take bytes out of a pipe buffer. -/
def takePipe (id amount : Nat) (state : State) : State :=
  { state with
    pipeBuffers :=
      Function.update state.pipeBuffers id
        ((state.pipeBuffers id).take amount) }

/-- `PENDING_SIGNALS.fetch_and(!bit)` -/
def clearPending (signum : UInt64) (state : State) : State :=
  { state with pending := state.pending &&& ~~~Signals.signalBit signum }

end State

def fdReadable (fd : Fd) : Bool :=
  fd.flags &&& Syscall.oAccmode != Syscall.oWronly

def fdSnapshot (fdNumber : Int) : Sys Fd :=
  if fdNumber < 0 ∨ fdNumber ≥ Syscall.fileFdMax then
    Prog.fail .ebadf
  else do
    let fd ← Prog.gets fun state => state.fds fdNumber.toNat
    if fd.used then
      pure fd
    else
      Prog.fail .ebadf

/-- A descriptor number that is in use. -/
def OpenFd (fds : Nat → Fd) (fdNumber : Int) : Prop :=
  0 ≤ fdNumber ∧
    fdNumber < Syscall.fileFdMax ∧
    (fds fdNumber.toNat).used = true

theorem fdSnapshot_of_open
    {state : State}
    {fdNumber : Int}
    (isOpen : OpenFd state.fds fdNumber) :
    fdSnapshot fdNumber state = .ok (state.fds fdNumber.toNat) state := by
  obtain ⟨nonnegative, inTable, used⟩ := isOpen
  have inside : ¬ (fdNumber < 0 ∨ fdNumber ≥ Syscall.fileFdMax) := by
    omega
  unfold fdSnapshot
  rw [if_neg inside, Prog.gets_bind_apply, if_pos used]
  rfl

theorem fdSnapshot_of_not_open
    {state : State}
    {fdNumber : Int}
    (closed : ¬ OpenFd state.fds fdNumber) :
    fdSnapshot fdNumber state = .err .ebadf state := by
  unfold fdSnapshot
  by_cases outside : fdNumber < 0 ∨ fdNumber ≥ Syscall.fileFdMax
  · rw [if_pos outside]
    rfl
  · rw [if_neg outside, Prog.gets_bind_apply, if_neg]
    · rfl
    · intro used
      exact closed ⟨by omega, by omega, used⟩

/-- `copy_user_out` of bytes at an offset from the address of the call -/
def copyUserOut
    (world : World)
    (offset : Nat)
    (bytes : List UInt8) :
    Sys Unit :=
  if world.copied offset bytes.length then
    pure ()
  else
    Prog.fail .efault

/-- `to_le_bytes` -/
def leBytes (value : UInt64) (width : Nat) : List UInt8 :=
  (List.range width).map (leByte value)

/-! ## Pipes and sockets -/

def pipeHasWriter (state : State) (id : Nat) : Bool :=
  (List.range Syscall.fileFdMax).any fun index =>
    (state.fds index).kind == .pipeWrite &&
      (state.fds index).path.length == 1 && (state.fds index).id == id

def pipeAvailable (state : State) (id : Nat) : Option Nat :=
  if id ≥ Syscall.pipeMax then
    none
  else if (state.pipeBuffers id).used then
    some (state.pipeBuffers id).len
  else
    none

/-- `pipe_read_fd`; the bytes that reach the caller. -/
def pipeReadFd
    (world : World)
    (fdNumber : Int)
    (count : Nat) :
    Sys (List UInt8) :=
  if count = 0 then
    pure []
  else do
    let fd ← fdSnapshot fdNumber
    if fd.kind ≠ .pipeRead ∨ fd.path.length ≠ 1 then
      Prog.fail .ebadf
    else do
      let state ← Prog.gets id
      match pipeAvailable state fd.id with
      | none => Prog.fail .ebadf
      | some available =>
          if available = 0 then
            if pipeHasWriter state fd.id then
              Prog.fail .eagain
            else
              pure []
          else do
            let amount := min count available
            let buffer := (state.pipeBuffers fd.id).peek amount
            copyUserOut world 0 buffer
            Prog.modify (State.takePipe fd.id amount)
            pure buffer

def socketPipeFor
    (state : State)
    (socket : Nat)
    (side : UInt8)
    (write : Bool) :
    Option Nat :=
  if socket ≥ Syscall.socketMax ∨
      (state.socketPairs socket).used = false ∨ side > 1 then
    none
  else if (side == 0) == write then
    some (state.socketPairs socket).aToB.toNat
  else
    some (state.socketPairs socket).bToA.toNat

/-- `socket_read_fd`; the bytes that reach the caller. -/
def socketReadFd
    (world : World)
    (fdNumber : Int)
    (count : Nat) :
    Sys (List UInt8) := do
  let fd ← fdSnapshot fdNumber
  if fd.path.length ≠ 2 then
    Prog.fail .enotconn
  else do
    let state ← Prog.gets id
    match socketPipeFor state fd.id (fd.path.getD 1 0) false with
    | none => Prog.fail .enotconn
    | some slot =>
        if (state.pipeBuffers slot).len = 0 then
          if fd.flags &&& Syscall.oNonblock ≠ 0 then
            Prog.fail .eagain
          else
            pure []
        else do
          let amount := min count (state.pipeBuffers slot).len
          let buffer := (state.pipeBuffers slot).peek amount
          copyUserOut world 0 buffer
          Prog.modify (State.takePipe slot amount)
          pure buffer

/-! ## Events, timers and signals -/

/-- The branch of `read_fd` for event counters. -/
def eventFdRead
    (world : World)
    (fd : Fd)
    (count : Nat) :
    Sys (List UInt8) :=
  if fd.id ≥ eventfdMax then
    Prog.hang
  else do
    let event ← Prog.gets fun state => state.eventFds fd.id
    if event.used = false then
      Prog.fail .ebadf
    else if event.counter = 0 then
      if fd.flags &&& Syscall.oNonblock ≠ 0 then
        Prog.fail .eagain
      else
        pure []
    else do
      let value := if event.semaphore then 1 else event.counter
      Prog.modify
        (State.setEventFd fd.id
          { event with counter := event.counter - value })
      if count < 8 then
        Prog.fail .einval
      else do
        copyUserOut world 0 (leBytes value 8)
        pure (leBytes value 8)

/-- How many times a timer has expired by now. -/
def expirations (timer : TimerFdState) (nowNs : UInt64) : UInt64 :=
  if timer.intervalNs ≠ 0 then
    1 + (nowNs - timer.expiresNs) / timer.intervalNs
  else
    1

/-- A timer after a read has found it expired. -/
def TimerFdState.fired
    (timer : TimerFdState)
    (nowNs : UInt64) :
    TimerFdState :=
  if timer.intervalNs ≠ 0 then
    { timer with
      expiresNs :=
        timer.expiresNs + expirations timer nowNs * timer.intervalNs }
  else
    { timer with armed := false }

/-- The branch of `read_fd` for timers. -/
def timerFdRead
    (world : World)
    (fd : Fd)
    (count : Nat) :
    Sys (List UInt8) :=
  if fd.id ≥ timerfdMax then
    Prog.hang
  else do
    let timer ← Prog.gets fun state => state.timerFds fd.id
    if timer.used = false then
      Prog.fail .ebadf
    else if timer.armed = false then
      if fd.flags &&& Syscall.oNonblock ≠ 0 then
        Prog.fail .eagain
      else
        pure []
    else if world.nowNs < timer.expiresNs then
      Prog.fail .eagain
    else do
      Prog.modify (State.setTimerFd fd.id (timer.fired world.nowNs))
      if count < 8 then
        Prog.fail .einval
      else do
        let value := leBytes (expirations timer world.nowNs) 8
        copyUserOut world 0 value
        pure value

/-- The record that a read of a signal descriptor returns. -/
def signalInfo (signum pid : UInt64) : List UInt8 :=
  leBytes signum 4 ++ leBytes 0 4 ++ leBytes pid 4 ++ leBytes 1000 4 ++
    List.replicate 112 0

/-- The branch of `read_fd` for signal descriptors. -/
def signalFdRead
    (world : World)
    (fd : Fd)
    (count : Nat) :
    Sys (List UInt8) :=
  if fd.id ≥ signalfdMax then
    Prog.hang
  else do
    let state ← Prog.gets id
    let signal := state.signalFds fd.id
    if signal.used = false then
      Prog.fail .ebadf
    else
      match Signals.lowestSignal (state.pending &&& signal.mask) with
      | none =>
          if fd.flags &&& Syscall.oNonblock ≠ 0 then
            Prog.fail .eagain
          else
            pure []
      | some signum => do
          Prog.modify (State.clearPending signum)
          if count < 128 then
            Prog.fail .einval
          else do
            let info := signalInfo signum state.process.pid
            copyUserOut world 0 info
            pure info

/-! ## The terminal -/

/-- The numbers of the signals, as `trailing_zeros` meets them. -/
def signalNumbers : List UInt64 :=
  (List.range 64).map fun index => UInt64.ofNat index + 1

/-- The loop of `signal_pending_unblocked` on the signals still to look at. -/
def signalPendingUnblockedLoop (pending : UInt64) : List UInt64 → Sys Bool
  | [] => pure false
  | signum :: rest =>
      if pending &&& Signals.signalBit signum = 0 then
        signalPendingUnblockedLoop pending rest
      else do
        let action ←
          Prog.gets fun state =>
            state.process.signalActions (signum - 1).toNat
        if action.ignores signum then do
          Prog.modify (State.clearPending signum)
          signalPendingUnblockedLoop pending rest
        else
          pure true

def signalPendingUnblocked : Sys Bool := do
  let state ← Prog.gets id
  signalPendingUnblockedLoop
    (state.pending &&& ~~~state.process.signalMask) signalNumbers

def icanon : UInt32 := 2

def isig : UInt32 := 1

def inputCapacity : Nat := 4096

def lineCapacity : Nat := 4096

namespace Terminal

/-- `push_input`; a full ring keeps one place free and drops the byte. -/
def pushInput (terminal : Terminal) (byte : UInt8) : Terminal :=
  if terminal.input.length + 1 = inputCapacity then
    terminal
  else
    { terminal with input := terminal.input ++ [byte] }

def flushLine (terminal : Terminal) : Terminal :=
  { (terminal.line ++ [10]).foldl pushInput terminal with line := [] }

end Terminal

def modifyTerminal (change : Terminal → Terminal) : Sys Unit :=
  Prog.modify fun state => { state with terminal := change state.terminal }

def popInput : Sys (Option UInt8) := do
  let terminal ← Prog.gets State.terminal
  match terminal.input with
  | [] => pure none
  | byte :: rest => do
      modifyTerminal fun terminal => { terminal with input := rest }
      pure (some byte)

def pollRawInput : Sys (Option UInt8) := do
  let terminal ← Prog.gets State.terminal
  match terminal.raw with
  | [] => pure none
  | byte :: rest => do
      modifyTerminal fun terminal => { terminal with raw := rest }
      pure (some byte)

/-- The signals that characters stand for: Ctrl-C, Ctrl-\ and Ctrl-Z. -/
def interruptSignal (byte : UInt8) : Option UInt64 :=
  if byte = 0x03 then
    some 2
  else if byte = 0x1c then
    some 3
  else if byte = 0x1a then
    some 20
  else
    none

/-- `process_input_byte`, without what it echoes -/
def processInputByte (byte : UInt8) : Sys (Option UInt8) := do
  let terminal ← Prog.gets State.terminal
  match
    if terminal.lflag &&& isig ≠ 0 then
      interruptSignal byte
    else
      none
  with
  | some signum => do
      modifyTerminal fun terminal => { terminal with line := [] }
      Prog.modify fun state =>
        { state with pending := state.pending ||| Signals.signalBit signum }
      pure none
  | none =>
      if terminal.lflag &&& icanon = 0 then
        pure (some byte)
      else if byte = 0x08 ∨ byte = 0x7f then do
        modifyTerminal fun terminal =>
          { terminal with line := terminal.line.dropLast }
        pure none
      else if byte = 0x04 then
        if terminal.line = [] then
          pure (some 0)
        else do
          modifyTerminal Terminal.flushLine
          popInput
      else if byte = 10 ∨ byte = 13 then do
        modifyTerminal Terminal.flushLine
        popInput
      else do
        modifyTerminal fun terminal =>
          if terminal.line.length < lineCapacity - 1 then
            { terminal with line := terminal.line ++ [byte] }
          else
            terminal
        pure none

/-- The loop of `read_byte`; every turn but the last takes a raw character. -/
def readByteLoop : Nat → Sys UInt8
  | 0 => Prog.hang
  | fuel + 1 => do
      let interrupted ← signalPendingUnblocked
      if interrupted then
        pure 0
      else do
        let buffered ← popInput
        match buffered with
        | some byte => pure byte
        | none => do
            let raw ← pollRawInput
            match raw with
            | none => Prog.hang
            | some raw => do
                let processed ← processInputByte raw
                match processed with
                | some byte => pure byte
                | none => do
                    let flushed ← popInput
                    match flushed with
                    | some byte => pure byte
                    | none => readByteLoop fuel

def readByte : Sys UInt8 := do
  let terminal ← Prog.gets State.terminal
  readByteLoop (terminal.raw.length + 1)

/-- The branch of `read_fd` for the terminal. -/
def ttyRead (world : World) (fd : Fd) : Sys (List UInt8) :=
  if fd.flags &&& Syscall.oNonblock ≠ 0 ∧ world.serialReady = false then
    Prog.fail .eagain
  else do
    let byte ← readByte
    if byte = 0 then do
      let interrupted ← signalPendingUnblocked
      if interrupted then
        Prog.fail .eintr
      else
        pure []
    else do
      copyUserOut world 0 [byte]
      pure [byte]

/-! ## Files and the disk -/

/-- The branch of `read_fd` for files with fixed contents. -/
def fixedRead
    (world : World)
    (fdNumber : Int)
    (fd : Fd)
    (contents : Option (List UInt8))
    (count : Nat) :
    Sys (List UInt8) :=
  match contents with
  | none => Prog.fail .enoent
  | some data => do
      let start := min fd.position.toNat data.length
      let bytes := (data.drop start).take count
      if bytes = [] ∨ world.copied 0 bytes.length then do
        Prog.modify
          (State.setPosition fdNumber.toNat (start + bytes.length))
        pure bytes
      else
        Prog.fail .efault

/-- The loop over chunks of at most 512 bytes in the branch for the disk. -/
def blockReadLoop
    (world : World)
    (count : Nat) :
    Nat → UInt64 → List UInt8 → Sys (List UInt8 × UInt64)
  | 0, _, _ => Prog.hang
  | fuel + 1, cursor, written =>
      if written.length < count then
        let chunk := min 512 (count - written.length)
        match world.disk cursor chunk with
        | none => pure (written, cursor)
        | some data => do
            copyUserOut world written.length (window data 0 chunk)
            blockReadLoop world count fuel (cursor + UInt64.ofNat chunk)
              (written ++ window data 0 chunk)
      else
        pure (written, cursor)

/-- The branch of `read_fd` for the disk. -/
def blockRead
    (world : World)
    (fdNumber : Int)
    (fd : Fd)
    (count : Nat) :
    Sys (List UInt8) := do
  let (written, cursor) ←
    blockReadLoop world count (count + 1) fd.position []
  Prog.modify fun state =>
    state.setFd fdNumber.toNat
      { state.fds fdNumber.toNat with position := cursor }
  pure written

/-- The first used RAM file with a path, if any. -/
def ramFileIndex (state : State) (path : List UInt8) : Option Nat :=
  (List.range ramFileMax).find? fun index =>
    (state.ramFiles index).used && (state.ramFiles index).path == path

/-- How far a copy of an amount in chunks gets. -/
def chunksCopied (world : World) (chunk amount : Nat) : Nat → Nat → Nat
  | 0, done => done
  | fuel + 1, done =>
      if done < amount ∧ world.copied done (min (amount - done) chunk) then
        chunksCopied world chunk amount fuel
          (done + min (amount - done) chunk)
      else
        done

/-- `ram_file_read`; the bytes that reach the caller. -/
def ramFileRead
    (world : World)
    (fdNumber : Int)
    (count : Nat) :
    Sys (List UInt8) := do
  let fd ← fdSnapshot fdNumber
  let state ← Prog.gets id
  match ramFileIndex state fd.path with
  | none => Prog.fail .enoent
  | some index =>
      let file := state.ramFiles index
      let start := min fd.position.toNat file.len
      let amount := min count (file.len - start)
      if amount = 0 then
        pure []
      else
        let done := chunksCopied world 4096 amount amount 0
        if done < amount then
          if done = 0 then
            Prog.fail .efault
          else
            pure (window file.data start done)
        else do
          Prog.modify (State.setPosition fdNumber.toNat (start + done))
          pure (window file.data start done)

/-! ## `read_fd` -/

/-- The branches of `read_fd` for the kinds of descriptors. -/
def readKind
    (world : World)
    (fdNumber : Int)
    (fd : Fd)
    (count : Nat) :
    Sys (List UInt8) :=
  match fd.kind with
  | .pipeRead => pipeReadFd world fdNumber count
  | .eventFd => eventFdRead world fd count
  | .timerFd => timerFdRead world fd count
  | .socket => socketReadFd world fdNumber count
  | .ramFile => ramFileRead world fdNumber count
  | .signalFd => signalFdRead world fd count
  | .tty => ttyRead world fd
  | .zero => do
      let zeros := List.replicate (min count 512) 0
      copyUserOut world 0 zeros
      pure zeros
  | .null => pure []
  | .binary =>
      fixedRead world fdNumber fd
        ((world.binary fd.path).map Binary.bytes) count
  | .text => fixedRead world fdNumber fd (world.text fd.path) count
  | .block => blockRead world fdNumber fd count
  | _ => Prog.fail .ebadf

/-- `read_fd`; the bytes that reach the caller. -/
def readFd
    (world : World)
    (fdNumber : Int)
    (count : Nat) :
    Sys (List UInt8) :=
  if fdNumber < 0 ∨ fdNumber ≥ Syscall.fileFdMax then
    Prog.fail .ebadf
  else if count = 0 then
    pure []
  else do
    let fd ← fdSnapshot fdNumber
    if fdReadable fd = false then
      Prog.fail .ebadf
    else
      readKind world fdNumber fd count

end VibuxOS.Files
