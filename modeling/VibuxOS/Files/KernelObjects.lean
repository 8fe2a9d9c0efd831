import VibuxOS.Files.FileCalls
import VibuxOS.Files.Opening
import VibuxOS.Lib.References

namespace VibuxOS.Files

open VibuxOS.Lib

/-!
# Kernel objects behind descriptors

Event counters, timers, signal sets, epoll sets and socket pairs live in tables
of their own, and a descriptor refers to an entry by its index.  Here are the
calls that take entries, the ones that drop descriptors, and the child of a
process that runs with a copy of its descriptors.
-/

def epollMax : Nat := 8

/-- An entry of `EPOLLS`. -/
structure EpollState where
  used : Bool
  watchedFds : Nat → Int
  watchedEvents : Nat → UInt32
  watchedData : Nat → UInt64
  count : Nat

def EpollState.empty : EpollState where
  used := false
  watchedFds := fun _ => 0
  watchedEvents := fun _ => 0
  watchedData := fun _ => 0
  count := 0

def TimerFdState.empty : TimerFdState where
  used := false
  expiresNs := 0
  intervalNs := 0
  armed := false

/-- The tables with `EPOLLS` among them. -/
structure ObjectState extends State where
  epolls : Nat → EpollState

/-- The modelled calls. -/
abbrev ObjectSys := Prog ObjectState Errno

/-- A call on the tables without `EPOLLS`. -/
def onFiles {α : Type} (program : Sys α) : ObjectSys α :=
  Prog.onPart ObjectState.toState
    (fun files state => { state with toState := files })
    program

/-- The first entry of a table that is not used. -/
def firstUnused (size : Nat) (used : Nat → Bool) : Option Nat :=
  (List.range size).find? fun id => !used id

/-- A descriptor that refers to an entry of the table of its kind. -/
def objectFd (kind : FileKind) (flags : UInt64) (id : Nat) : Fd where
  used := true
  kind := kind
  flags := flags
  position := 0
  path := [UInt8.ofNat id]

/--
The common body of the four allocations.  The entry that is taken for a
descriptor is given back when no descriptor is free.
-/
def allocObject
    (unused : ObjectState → Option Nat)
    (take giveBack : Nat → ObjectState → ObjectState)
    (descriptor : Nat → Fd) :
    ObjectSys Nat := do
  onFiles init
  let slot ← Prog.gets unused
  match slot with
  | none => Prog.fail .eperm
  | some id => do
      Prog.modify (take id)
      let made ← Prog.attempt (onFiles (allocFd (descriptor id)))
      match made with
      | .ok number => pure number
      | .error _ => do
          Prog.modify (giveBack id)
          Prog.fail .eperm

namespace ObjectState

def unusedEventFd (state : ObjectState) : Option Nat :=
  firstUnused eventfdMax fun id => (state.eventFds id).used

def unusedTimerFd (state : ObjectState) : Option Nat :=
  firstUnused timerfdMax fun id => (state.timerFds id).used

def unusedSignalFd (state : ObjectState) : Option Nat :=
  firstUnused signalfdMax fun id => (state.signalFds id).used

def unusedEpoll (state : ObjectState) : Option Nat :=
  firstUnused epollMax fun id => (state.epolls id).used

/-- Replace an entry of `EVENTFDS`. -/
def putEventFd
    (id : Nat)
    (event : EventFdState)
    (state : ObjectState) :
    ObjectState :=
  { state with eventFds := Function.update state.eventFds id event }

/-- Replace an entry of `TIMERFDS`. -/
def putTimerFd
    (id : Nat)
    (timer : TimerFdState)
    (state : ObjectState) :
    ObjectState :=
  { state with timerFds := Function.update state.timerFds id timer }

/-- Replace an entry of `SIGNALFDS`. -/
def putSignalFd
    (id : Nat)
    (signal : SignalFdState)
    (state : ObjectState) :
    ObjectState :=
  { state with signalFds := Function.update state.signalFds id signal }

/-- Replace an entry of `EPOLLS`. -/
def putEpoll
    (id : Nat)
    (epoll : EpollState)
    (state : ObjectState) :
    ObjectState :=
  { state with epolls := Function.update state.epolls id epoll }

end ObjectState

/-- The flags that the allocations know; each has its own names for them. -/
def fdFlags : UInt64 := Syscall.oCloexec ||| Syscall.oNonblock

def eventfdAlloc
    (counter flags : UInt64)
    (semaphore : Bool) :
    ObjectSys Nat :=
  if flags &&& ~~~fdFlags ≠ 0 then
    Prog.fail .eperm
  else
    allocObject ObjectState.unusedEventFd
      (fun id =>
        ObjectState.putEventFd id
          { used := true, counter := counter, semaphore := semaphore })
      (fun id state =>
        state.putEventFd id { state.eventFds id with used := false })
      (objectFd .eventFd flags)

/-- `CLOCK_REALTIME`, `CLOCK_MONOTONIC` and `CLOCK_BOOTTIME` -/
def timerClocks : List UInt64 := [0, 1, 7]

def timerfdAlloc (clockId flags : UInt64) : ObjectSys Nat :=
  if flags &&& ~~~fdFlags ≠ 0 then
    Prog.fail .eperm
  else if clockId ∉ timerClocks then
    Prog.fail .eperm
  else
    allocObject ObjectState.unusedTimerFd
      (fun id =>
        ObjectState.putTimerFd id { TimerFdState.empty with used := true })
      (fun id state =>
        state.putTimerFd id { state.timerFds id with used := false })
      (objectFd .timerFd flags)

def signalfdAlloc (mask flags : UInt64) : ObjectSys Nat :=
  if flags &&& ~~~fdFlags ≠ 0 then
    Prog.fail .eperm
  else
    allocObject ObjectState.unusedSignalFd
      (fun id => ObjectState.putSignalFd id { used := true, mask := mask })
      (fun id state =>
        state.putSignalFd id { state.signalFds id with used := false })
      (objectFd .signalFd flags)

def epollAlloc (flags : UInt64) : ObjectSys Nat :=
  if flags &&& ~~~Syscall.oCloexec ≠ 0 then
    Prog.fail .eperm
  else
    allocObject ObjectState.unusedEpoll
      (fun id => ObjectState.putEpoll id { EpollState.empty with used := true })
      (fun id state =>
        state.putEpoll id { state.epolls id with used := false })
      (objectFd .epoll flags)

/-! ## Socket pairs -/

namespace State

/-- Replace a pipe buffer. -/
def putBuffer
    (id : Nat)
    (pipe : Syscall.PipeBuffer)
    (state : State) :
    State :=
  { state with pipeBuffers := Function.update state.pipeBuffers id pipe }

/-- Replace an entry of `SOCKET_PAIRS`. -/
def putPair
    (id : Nat)
    (pair : Syscall.SocketPair)
    (state : State) :
    State :=
  { state with socketPairs := Function.update state.socketPairs id pair }

def unusedBuffer (state : State) : Option Nat :=
  firstUnused Syscall.pipeMax fun id => (state.pipeBuffers id).used

def unusedPair (state : State) : Option Nat :=
  firstUnused Syscall.socketMax fun id => (state.socketPairs id).used

end State

def socketPairAlloc : Sys (Option Nat) := do
  let pair ← Prog.gets State.unusedPair
  match pair with
  | none => pure none
  | some pair => do
      let first ← Prog.gets State.unusedBuffer
      match first with
      | none => pure none
      | some aToB => do
          Prog.modify (State.putBuffer aToB Syscall.PipeBuffer.fresh)
          let second ← Prog.gets State.unusedBuffer
          match second with
          | none => do
              Prog.modify (State.putBuffer aToB Syscall.PipeBuffer.empty)
              pure none
          | some bToA => do
              Prog.modify (State.putBuffer bToA Syscall.PipeBuffer.fresh)
              Prog.modify
                (State.putPair pair
                  ⟨true, UInt8.ofNat aToB, UInt8.ofNat bToA⟩)
              pure (some pair)

/-- One end of a socket pair. -/
def socketFd (flags : UInt64) (path : List UInt8) : Fd where
  used := true
  kind := .socket
  flags :=
    Syscall.oRdwr ||| flags &&& (Syscall.oNonblock ||| Syscall.oCloexec)
  position := 0
  path := path

/-- Give a descriptor another path. -/
def State.setPath (index : Nat) (path : List UInt8) (state : State) : State :=
  state.setFd index { state.fds index with path := path }

/-- `socket_pair_from_user`; `copied` says whether the numbers reach the caller. -/
def socketPairFromUser
    (address : UInt64)
    (copied : Bool)
    (flags : UInt64) :
    Sys Nat :=
  if address = 0 then
    Prog.fail .efault
  else do
    let allocated ← socketPairAlloc
    match allocated with
    | none => Prog.fail .emfile
    | some pair => do
        let a ← Prog.attempt (allocFd (socketFd flags [0, 0]))
        let b ← Prog.attempt (allocFd (socketFd flags [0, 0]))
        match a, b with
        | .ok a, .ok b => do
            Prog.modify (State.setPath a [UInt8.ofNat pair, 0])
            Prog.modify (State.setPath b [UInt8.ofNat pair, 1])
            if copied then
              pure 0
            else do
              Prog.modify (State.setFd a Fd.empty)
              Prog.modify (State.setFd b Fd.empty)
              Prog.modify (State.putPair pair Syscall.SocketPair.empty)
              Prog.fail .efault
        | .ok a, .error _ => do
            Prog.modify (State.setFd a Fd.empty)
            Prog.modify (State.putPair pair Syscall.SocketPair.empty)
            Prog.fail .emfile
        | .error _, _ => do
            Prog.modify (State.putPair pair Syscall.SocketPair.empty)
            Prog.fail .emfile

/-- The arm of `socketpair` in the table of system calls. -/
def socketpair
    (domain address : UInt64)
    (copied : Bool)
    (flags : UInt64) :
    Sys Nat :=
  if domain = 1 then
    socketPairFromUser address copied flags
  else
    Prog.fail .eafnosupport

/-! ## Processes -/

/-- What `reset_process_for_exec` does to the descriptors. -/
def closeOnExec : Sys Unit :=
  Prog.modify fun state =>
    { state with
      fds := fun index =>
        if 3 ≤ index ∧ index < Syscall.fileFdMax ∧
            (state.fds index).used = true ∧
            (state.fds index).flags &&& Syscall.oCloexec ≠ 0 then
          Fd.empty
        else
          state.fds index }

/-- `do_fork`; `cloned` says whether the address space could be copied. -/
def doFork (cloned : Bool) : Sys Unit := do
  let parent ← Prog.gets State.parent
  match parent with
  | some _ => Prog.fail .eagain
  | none =>
      if cloned then
        Prog.modify fun state => { state with parent := some state.fds }
      else
        Prog.fail .enomem

def doVfork : Sys Unit := do
  let parent ← Prog.gets State.parent
  match parent with
  | some _ => Prog.fail .eagain
  | none => Prog.modify fun state => { state with parent := some state.fds }

/-- `vibux_vfork_child_exit`; without a parent the run is over. -/
def childExit : Sys Unit := do
  let parent ← Prog.gets State.parent
  match parent with
  | some fds =>
      Prog.modify fun state => { state with fds := fds, parent := none }
  | none => Prog.hang

end VibuxOS.Files
