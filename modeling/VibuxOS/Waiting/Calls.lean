import VibuxOS.Files.Polling
import VibuxOS.Lib.Waiting
import VibuxOS.Paging.UserCopyEnds

namespace VibuxOS.Waiting

open VibuxOS.Lib VibuxOS.Paging
open VibuxOS.Files (pollIn pollOut leBytes)

/-!
# The calls that wait for descriptors or for time

`poll_scan`, `select_impl`, `pselect_impl`, the conversions of timeouts, and the
calls `poll`, `ppoll` and `nanosleep` of `arch/x86_64/syscall.rs`.

A call waits with the processor halted, and what happens there is a schedule:
it can change the clock, the descriptors, the signals and the user memory.  In
between the surroundings stay as they are.  A call leaves through the error exit
with the number that it returns, as the `?` operator and the arms do.
-/

def eintr : UInt64 := 4

def pollPri : UInt16 := 0x02

/-- What a waiting call finds: descriptors, devices, the clock, user memory. -/
structure Moment where
  files : Files.State
  serialReady : Bool
  keyboardReady : Bool
  ticks : UInt64
  space : AddressSpace
  bytes : UInt64 → UInt8

/-- A call and what it returns. -/
abbrev Call := Prog Moment UInt64

/-- What happens while the processor is halted for the first, second, … time. -/
abbrev Schedule := Nat → Moment → Moment

/-! ## Numbers -/

/-- The largest word. -/
def maxWord : UInt64 := 0xFFFFFFFFFFFFFFFF

def saturatingAdd (left right : UInt64) : UInt64 :=
  (checkedAdd left right).getD maxWord

def saturatingMul (left right : UInt64) : UInt64 :=
  if left.toNat * right.toNat < 2 ^ 64 then left * right else maxWord

def ticksToNs (ticks : UInt64) : UInt64 :=
  saturatingMul ticks 4000000

/-- The number that some bits stand for in two's complement. -/
def signed (bits value : Nat) : Int :=
  if value < 2 ^ (bits - 1) then value else value - 2 ^ bits

/-! ## User memory -/

/-- `copy_user_in` into a fresh buffer -/
def copyIn (address : UInt64) (len : Nat) : Call (Nat → UInt8) :=
  fun moment =>
    match
      copyUserIn moment.space address len
        (.start moment.bytes fun _ => 0)
    with
    | .ok _ last => .ok last.output moment
    | .err code _ => .err code moment
    | .hang => .hang

/-- `copy_user_out` -/
def copyOut (address : UInt64) (input : List UInt8) : Call Unit :=
  fun moment =>
    match
      copyUserOut moment.space address input
        (.start moment.bytes fun _ => 0)
    with
    | .ok _ last => .ok () { moment with bytes := last.bytes }
    | .err code last => .err code { moment with bytes := last.bytes }
    | .hang => .hang

/-! ## Descriptors -/

/-- What the descriptors are surrounded by. -/
def Moment.world (moment : Moment) : Files.World :=
  { Files.World.idle with
    nowNs := ticksToNs moment.ticks
    serialReady := moment.serialReady }

/-- A program over the descriptors, none of which fails here. -/
def onFiles {α : Type} (program : Files.Sys α) : Call α :=
  Prog.onPart Moment.files
    (fun files moment => { moment with files := files })
    (Prog.mapError (fun _ => negErrno einval) program)

def pollFdRevents (fdNumber : Int) (events : UInt16) : Call UInt16 := do
  let moment ← Prog.gets id
  onFiles
    (Files.pollFdRevents moment.world moment.keyboardReady fdNumber events)

def signalPendingUnblocked : Call Bool :=
  onFiles Files.signalPendingUnblocked

/-! ## `poll` -/

/-- `user_fds.checked_add((index * 8) as u64).ok_or(neg_errno(EFAULT))?` -/
def entryAddress (userFds : UInt64) (index : Nat) : Call UInt64 :=
  match checkedAdd userFds (UInt64.ofNat (index * 8)) with
  | some base => pure base
  | none => Prog.fail (negErrno efault)

/-- The loop of `poll_scan`, with the entries that are left. -/
def scanEntries (userFds : UInt64) : Nat → Nat → Nat → Call Nat
  | 0, _, ready => pure ready
  | left + 1, index, ready => do
      let base ← entryAddress userFds index
      let raw ← copyIn base 8
      let fd := signed 32 (leValue raw 4)
      let events := UInt16.ofNat (leValue (fun index => raw (4 + index)) 2)
      let revents ← pollFdRevents fd events
      copyOut (base + 6) (leBytes revents.toUInt64 2)
      scanEntries userFds left (index + 1)
        (if revents ≠ 0 then ready + 1 else ready)

def pollScan (userFds : UInt64) (count : Nat) : Call Nat :=
  if count > 256 then
    Prog.fail (negErrno einval)
  else
    scanEntries userFds count 0 0

def passed (deadline : Option UInt64) (ticks : UInt64) : Bool :=
  deadline.any fun deadline => decide (deadline ≤ ticks)

/-- A turn that scans the array and can stop at a time without a result. -/
def scanTurn
    (userFds : UInt64)
    (count : Nat)
    (stops : UInt64 → Bool) :
    Call (Option UInt64) := do
  let value ← pollScan userFds count
  if value ≠ 0 then
    pure (some (UInt64.ofNat value))
  else do
    let ticks ← Prog.gets Moment.ticks
    if stops ticks then
      pure (some 0)
    else
      pure none

/-- One turn of the loop of `poll`. -/
def pollTurn (userFds : UInt64) (count : Nat) (deadline : Option UInt64) :=
  scanTurn userFds count (passed deadline)

/-- The deadline of `poll` for a timeout in milliseconds. -/
def pollDeadline (timeout start : UInt64) : Option UInt64 :=
  if signed 64 timeout.toNat < 0 then
    none
  else
    some (saturatingAdd start ((timeout + 3) / 4))

def poll
    (schedule : Schedule)
    (userFds count timeout : UInt64)
    (fuel : Nat) :
    Call UInt64 :=
  if timeout = 0 then do
    let value ← pollScan userFds count.toNat
    pure (UInt64.ofNat value)
  else do
    let start ← Prog.gets Moment.ticks
    Prog.awaits schedule
      (pollTurn userFds count.toNat (pollDeadline timeout start)) fuel 0

/-! ## Timeouts -/

/-- The two words of a `timespec` or a `timeval`. -/
def readTimeout (pointer : UInt64) : Call (UInt64 × UInt64) := do
  let raw ← copyIn pointer 16
  pure (getU64 raw 0, getU64 raw 8)

/-- A conversion of a timeout with a largest part of a second. -/
def timeoutTicks
    (parts : Int)
    (convert : UInt64 → UInt64 → UInt64)
    (pointer : UInt64) :
    Call (Option UInt64) :=
  if pointer = 0 then
    pure none
  else do
    let words ← readTimeout pointer
    let sec := signed 64 words.1.toNat
    let part := signed 64 words.2.toNat
    if sec < 0 ∨ part < 0 ∨ parts ≤ part then
      Prog.fail (negErrno einval)
    else
      pure (some (convert words.1 words.2))

/-- The ticks of a `timespec`. -/
def timespecTicks (sec nsec : UInt64) : UInt64 :=
  saturatingAdd (min (saturatingMul sec 250) (maxWord - 250))
    ((nsec + 3999999) / 4000000)

def timeoutTicksFromTimespec (pointer : UInt64) : Call (Option UInt64) :=
  timeoutTicks 1000000000 timespecTicks pointer

/-- The ticks of a `timeval`. -/
def timevalTicks (sec usec : UInt64) : UInt64 :=
  saturatingAdd (saturatingMul sec 250) ((usec + 3999) / 4000)

def timeoutTicksFromTimeval (pointer : UInt64) : Call (Option UInt64) :=
  timeoutTicks 1000000 timevalTicks pointer

/-- The ticks of a timeout, with 0 for one that cannot be read. -/
def timeoutOrZero : Except UInt64 (Option UInt64) → UInt64
  | .ok (some ticks) => ticks
  | _ => 0

/-- One turn of the loop of `ppoll`, which does not wait without a deadline. -/
def ppollTurn (userFds : UInt64) (count : Nat) (deadline : Option UInt64) :=
  scanTurn userFds count fun ticks => deadline.isNone || passed deadline ticks

/-- The deadline of `ppoll`. -/
def ppollDeadline (timeout : UInt64) : Call (Option UInt64) := do
  let start ← Prog.gets Moment.ticks
  if timeout = maxWord then
    pure none
  else do
    let ticks ← Prog.attempt (timeoutTicksFromTimespec timeout)
    pure (some (saturatingAdd start (timeoutOrZero ticks)))

def ppoll
    (schedule : Schedule)
    (userFds count timeout : UInt64)
    (fuel : Nat) :
    Call UInt64 := do
  let deadline ← ppollDeadline timeout
  Prog.awaits schedule (ppollTurn userFds count.toNat deadline) fuel 0

/-! ## `nanosleep` -/

/-- One turn of the loop of `nanosleep`. -/
def sleepTurn (target : UInt64) : Call (Option Unit) := do
  let ticks ← Prog.gets Moment.ticks
  if ticks < target then
    pure none
  else
    pure (some ())

/-- The wait of `nanosleep`, and the time that is left after it. -/
def sleepFor
    (schedule : Schedule)
    (ticks remaining : UInt64)
    (fuel : Nat) :
    Call UInt64 := do
  let start ← Prog.gets Moment.ticks
  Prog.awaits schedule (sleepTurn (saturatingAdd start ticks)) fuel 0
  if remaining ≠ 0 then do
    let _ ←
      (Prog.attempt (copyOut remaining (List.replicate 16 0)) :
        Call (Except UInt64 Unit))
    pure 0
  else
    pure 0

def nanosleep
    (schedule : Schedule)
    (request remaining : UInt64)
    (fuel : Nat) :
    Call UInt64 :=
  if request = 0 then
    Prog.fail (negErrno einval)
  else do
    let ticks ← timeoutTicksFromTimespec request
    sleepFor schedule (ticks.getD 0) remaining fuel

/-! ## `select` and `pselect` -/

/-- A set of descriptors, one bit for each. -/
abbrev FdSet := Nat → UInt8

/-- `1u8 << (fd & 7)` -/
def fdBit (fd : Nat) : UInt8 := 1 <<< UInt8.ofNat (fd % 8)

/-- `set[byte] & bit != 0` -/
def FdSet.has (set : FdSet) (fd : Nat) : Bool :=
  set (fd / 8) &&& fdBit fd != 0

/-- `set[byte] |= bit` -/
def FdSet.insert (set : FdSet) (fd : Nat) : FdSet :=
  Function.update set (fd / 8) (set (fd / 8) ||| fdBit fd)

/-- The sets for reading, for writing and for exceptions. -/
structure Sets where
  read : FdSet
  write : FdSet
  except : FdSet

/-- Sets without a descriptor. -/
def Sets.empty : Sets where
  read _ := 0
  write _ := 0
  except _ := 0

/-- The pointers to the three sets. -/
structure Pointers where
  read : UInt64
  write : UInt64
  except : UInt64

/-- The copy of a requested set. -/
def readSet (pointer : UInt64) : Call FdSet :=
  if pointer ≠ 0 then
    Prog.mapError (fun _ => negErrno efault) (copyIn pointer 128)
  else
    pure fun _ => 0

/-- The copies of the three requested sets. -/
def readSets (pointers : Pointers) : Call Sets := do
  let read ← readSet pointers.read
  let write ← readSet pointers.write
  let except ← readSet pointers.except
  pure ⟨read, write, except⟩

/-- The copy of a result set. -/
def writeSet (pointer : UInt64) (set : FdSet) : Call Unit :=
  if pointer ≠ 0 then
    Prog.mapError (fun _ => negErrno efault)
      (copyOut pointer ((List.range 128).map set))
  else
    pure ()

/-- The copies of the three result sets. -/
def writeSets (pointers : Pointers) (sets : Sets) : Call Unit := do
  writeSet pointers.read sets.read
  writeSet pointers.write sets.write
  writeSet pointers.except sets.except

/-- A descriptor of a set that reports an event enters the result. -/
def checkSet
    (requested : FdSet)
    (events : UInt16)
    (fd : Nat)
    (ready : FdSet × Nat) :
    Call (FdSet × Nat) :=
  if requested.has fd = true then do
    let revents ← pollFdRevents fd events
    if revents ≠ 0 then
      pure (ready.1.insert fd, ready.2 + 1)
    else
      pure ready
  else
    pure ready

/-- The loop over the descriptors of `select_impl`. -/
def scanSelect (requested : Sets) : Nat → Nat → Sets → Nat → Call (Sets × Nat)
  | 0, _, ready, count => pure (ready, count)
  | left + 1, fd, ready, count => do
      let read ← checkSet requested.read pollIn fd (ready.read, count)
      let write ← checkSet requested.write pollOut fd (ready.write, read.2)
      let except ← checkSet requested.except pollPri fd (ready.except, write.2)
      scanSelect requested left (fd + 1) ⟨read.1, write.1, except.1⟩ except.2

/-- The loop over the descriptors of `pselect_impl`. -/
def scanPselect (requested : Sets) : Nat → Nat → Sets → Nat → Call (Sets × Nat)
  | 0, _, ready, count => pure (ready, count)
  | left + 1, fd, ready, count => do
      let read ← checkSet requested.read pollIn fd (ready.read, count)
      let write ← checkSet requested.write pollOut fd (ready.write, read.2)
      scanPselect requested left (fd + 1) ⟨read.1, write.1, ready.except⟩
        write.2

/-- One turn of the loops of `select_impl` and `pselect_impl`. -/
def selectTurn
    (scan : Call (Sets × Nat))
    (pointers : Pointers)
    (deadline : Option UInt64) :
    Call (Option UInt64) := do
  let found ← scan
  if found.2 ≠ 0 then do
    writeSets pointers found.1
    pure (some (UInt64.ofNat found.2))
  else do
    let ticks ← Prog.gets Moment.ticks
    if passed deadline ticks then do
      writeSets pointers Sets.empty
      pure (some 0)
    else do
      let interrupted ← signalPendingUnblocked
      if interrupted then
        Prog.fail (negErrno eintr)
      else
        pure none

/-- `nfds` as it bounds the scans. -/
def boundedFds (nfds : UInt64) : Nat :=
  min nfds.toNat 1024

/-- What `select_impl` and `pselect_impl` have in common. -/
def selectWith
    (scan : Sets → Nat → Nat → Sets → Nat → Call (Sets × Nat))
    (ticksFrom : UInt64 → Call (Option UInt64))
    (schedule : Schedule)
    (nfds : UInt64)
    (pointers : Pointers)
    (timeout : UInt64)
    (fuel : Nat) :
    Call UInt64 := do
  let requested ← readSets pointers
  let start ← Prog.gets Moment.ticks
  let ticks ← ticksFrom timeout
  Prog.awaits schedule
    (selectTurn (scan requested (boundedFds nfds) 0 Sets.empty 0) pointers
      (ticks.map (saturatingAdd start)))
    fuel 0

/-- `select_impl` -/
def select :=
  selectWith scanSelect timeoutTicksFromTimeval

/-- `pselect_impl` -/
def pselect :=
  selectWith scanPselect timeoutTicksFromTimespec

end VibuxOS.Waiting
