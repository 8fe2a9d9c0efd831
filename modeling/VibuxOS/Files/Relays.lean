import VibuxOS.Files.ByteChannels
import VibuxOS.Files.CutTransfers

namespace VibuxOS.Files

open VibuxOS.Lib

/-!
# What `splice` and `copy_file_range` move

Both calls read a chunk into a buffer of the kernel and write the buffer, turn
after turn.  `read_fd` and `write_fd` check the address of that buffer as if a
program had given it, so everything fails when the kernel is mapped above
`USER_LIMIT`; where it is mapped is the choice of the boot loader.

The turns of a call are recorded with the states between them.
-/

/-! ## The turns of a call -/

/--
What `read_fd` and `write_fd` find at the address of a buffer of the kernel.
The buffer is mapped and writable, so the copies look at its address only.
-/
def kernelWorld (buffer : UInt64) (world : World) : World :=
  { world with
    copied := fun _ len => decide (buffer < Paging.userLimit) || len == 0 }

/-- The same surroundings with a chunk in the buffer. -/
abbrev World.holding (world : World) (chunk : List UInt8) : World :=
  { world with source := fun index => chunk.getD index 0 }

/--
One turn of the loop: a read of at most `count` bytes that took the chunk, and
a write that accepted some of it.  The chunk of a read that fails is empty, and
a write that fails accepts nothing.
-/
structure Turn where
  count : Nat
  before : State
  chunk : List UInt8
  middle : State
  accepted : Nat
  after : State

/-- The turns of the loop that have ended. -/
def turnsFrom
    (kernel : World)
    (fdIn fdOut : Int)
    (len : Nat) :
    Nat → Nat → State → List Turn
  | 0, _, _ => []
  | fuel + 1, total, state =>
      if total < len then
        let count := min 4096 (len - total)
        match readFd kernel fdIn count state with
        | .ok chunk middle =>
            if chunk = [] then
              []
            else
              match
                writeFd (kernel.holding chunk) fdOut chunk.length middle
              with
              | .ok accepted after =>
                  ⟨count, state, chunk, middle, accepted, after⟩ ::
                    turnsFrom kernel fdIn fdOut len fuel
                      (total + chunk.length) after
              | .err _ after => [⟨count, state, chunk, middle, 0, after⟩]
              | .hang => []
        | .err _ after => [⟨count, state, [], after, 0, after⟩]
        | .hang => []
      else
        []

/-- The calls that move bytes between descriptors. -/
inductive TransferKind where
  | splice
  | copyFileRange
  deriving Repr, DecidableEq

/-- A call with its arguments. -/
structure Transfer where
  kind : TransferKind
  fdIn : Int
  fdOut : Int
  len : Nat
  flags : Nat

namespace Transfer

def KnowsFlags (transfer : Transfer) : Prop :=
  match transfer.kind with
  | .splice => transfer.flags &&& 15 = transfer.flags
  | .copyFileRange => transfer.flags = 0

def run (transfer : Transfer) (kernel : World) : Sys Nat :=
  match transfer.kind with
  | .splice =>
      splice kernel transfer.fdIn transfer.fdOut transfer.len transfer.flags
  | .copyFileRange =>
      copyFileRange kernel transfer.fdIn transfer.fdOut transfer.len
        transfer.flags

/-- The call gets to its loop. -/
def Starts (transfer : Transfer) (state : State) : Prop :=
  OpenFd state.fds transfer.fdIn ∧
    OpenFd state.fds transfer.fdOut ∧
    transfer.KnowsFlags

instance (fds : Nat → Fd) (fdNumber : Int) : Decidable (OpenFd fds fdNumber) :=
  inferInstanceAs (Decidable (_ ∧ _ ∧ _))

instance (transfer : Transfer) : Decidable transfer.KnowsFlags := by
  unfold KnowsFlags
  split <;> infer_instance

instance (transfer : Transfer) (state : State) :
    Decidable (transfer.Starts state) :=
  inferInstanceAs (Decidable (_ ∧ _ ∧ _))

/-- The turns of a call. -/
def turns (transfer : Transfer) (kernel : World) (state : State) : List Turn :=
  if transfer.Starts state then
    turnsFrom kernel transfer.fdIn transfer.fdOut transfer.len
      (transfer.len + 1) 0 state
  else
    []

end Transfer

/-- The bytes that the reads took from the input. -/
def taken (turns : List Turn) : List UInt8 :=
  (turns.map Turn.chunk).flatten

/-- The bytes that the writes added to the output. -/
def added (turns : List Turn) : List UInt8 :=
  (turns.map fun turn => turn.chunk.take turn.accepted).flatten

/-! ## What taking and adding bytes is -/

/-- The position of a descriptor has moved by an amount. -/
def PositionMoved
    (fdNumber : Int)
    (amount : Nat)
    (before after : State) : Prop :=
  (after.fds fdNumber.toNat).position =
    (before.fds fdNumber.toNat).position + UInt64.ofNat amount

/--
Bytes that were the next ones of the input, and are not any more: they have left
a buffer, or the position has moved behind them, or the counter, the timer or
the signal that they stand for is taken.
-/
def Removed
    (world : World)
    (fdNumber : Int)
    (bytes : List UInt8)
    (before after : State) : Prop :=
  let fd := before.fds fdNumber.toNat
  match fd.kind with
  | .pipeRead | .socket =>
      ∃ slot,
        readSlot before fdNumber = some slot ∧
          ((before.pipeBuffers slot).WellFormed →
            (before.pipeBuffers slot).contents =
              bytes ++ (after.pipeBuffers slot).contents)
  | .ramFile =>
      (∃ index,
          ramFileIndex before fd.path = some index ∧
            bytes =
              window (before.ramFiles index).data fd.position.toNat
                bytes.length) ∧
        PositionMoved fdNumber bytes.length before after
  | .binary =>
      (∃ binary,
          world.binary fd.path = some binary ∧
            bytes =
              (binary.bytes.drop fd.position.toNat).take bytes.length) ∧
        PositionMoved fdNumber bytes.length before after
  | .text =>
      (∃ data,
          world.text fd.path = some data ∧
            bytes = (data.drop fd.position.toNat).take bytes.length) ∧
        PositionMoved fdNumber bytes.length before after
  | .block =>
      (∃ count cursor,
          blockReadLoop world count (count + 1) fd.position [] before =
            .ok (bytes, cursor) before) ∧
        PositionMoved fdNumber bytes.length before after
  | .eventFd =>
      ∃ value,
        bytes = leBytes value 8 ∧
          (before.eventFds fd.id).counter.toNat =
            value.toNat + (after.eventFds fd.id).counter.toNat
  | .timerFd =>
      bytes = leBytes (expirations (before.timerFds fd.id) world.nowNs) 8 ∧
        after.timerFds fd.id = (before.timerFds fd.id).fired world.nowNs
  | .signalFd =>
      ∃ signum,
        Signals.lowestSignal
              (before.pending &&& (before.signalFds fd.id).mask) =
            some signum ∧
          bytes = signalInfo signum before.process.pid ∧
          after.pending = before.pending &&& ~~~Signals.signalBit signum
  | .tty => ∃ byte, readByte before = .ok byte after ∧ bytes = [byte]
  | .zero => bytes = List.replicate bytes.length 0 ∧ after = before
  | _ => False

/--
Bytes that the output has got: behind what is in a buffer, at the position or
the end of a file, or as a number to add to a counter.  A terminal prints them,
and a null device drops them.
-/
def Added
    (fdNumber : Int)
    (bytes : List UInt8)
    (before after : State) : Prop :=
  let fd := before.fds fdNumber.toNat
  match fd.kind with
  | .pipeWrite | .socket =>
      ∃ slot,
        writeSlot before fdNumber = some slot ∧
          ((before.pipeBuffers slot).WellFormed →
            (after.pipeBuffers slot).contents =
              (before.pipeBuffers slot).contents ++ bytes)
  | .ramFile =>
      ∃ index,
        ramFileIndex before fd.path = some index ∧
          let file := before.ramFiles index
          let start := ramWriteStart before fd index
          after.ramFiles index =
              { file with
                data :=
                  blit file.data start (fun index => bytes.getD index 0)
                    bytes.length
                len := max file.len (start + bytes.length) } ∧
            (after.fds fdNumber.toNat).position.toNat = start + bytes.length
  | .eventFd =>
      ∃ value,
        bytes = leBytes value 8 ∧
          (after.eventFds fd.id).counter.toNat =
            (before.eventFds fd.id).counter.toNat + value.toNat
  | .tty | .null => after = before
  | _ => False

/-- A read takes its chunk, and no more than that. -/
def Turn.Takes (world : World) (fdIn : Int) (turn : Turn) : Prop :=
  if turn.chunk = [] then
    Untouched turn.before turn.middle
  else
    Removed world fdIn turn.chunk turn.before turn.middle

/-- A write adds what it accepts, and no more than that. -/
def Turn.Adds (fdOut : Int) (turn : Turn) : Prop :=
  if turn.accepted = 0 then
    turn.after = turn.middle
  else
    Added fdOut (turn.chunk.take turn.accepted) turn.middle turn.after

/-! ## What is to hold, and when it does -/

/-- The input has bytes to read, and the output room for a part of them. -/
def Transfer.Ready
    (transfer : Transfer)
    (world : World)
    (state : State) : Prop :=
  let mapped := { world with copied := fun _ _ => true }
  transfer.Starts state ∧
    ∃ chunk middle accepted after,
      readFd mapped transfer.fdIn (min 4096 transfer.len) state =
          .ok chunk middle ∧
        chunk ≠ [] ∧
        writeFd (mapped.holding chunk) transfer.fdOut chunk.length middle =
          .ok accepted after

/--
The bytes that are taken from the input are those that are added to the output,
in order, and their number is the result; a call fails before it moves any, and
not when it could have moved some.
-/
structure Transfer.Conserves
    (transfer : Transfer)
    (world : World)
    (buffer : UInt64)
    (state : State) : Prop where
  takes :
    ∀ turn ∈ transfer.turns (kernelWorld buffer world) state,
      turn.Takes (kernelWorld buffer world) transfer.fdIn
  adds :
    ∀ turn ∈ transfer.turns (kernelWorld buffer world) state,
      turn.Adds transfer.fdOut
  same :
    taken (transfer.turns (kernelWorld buffer world) state) =
      added (transfer.turns (kernelWorld buffer world) state)
  counted :
    ∀ result final,
      transfer.run (kernelWorld buffer world) state = .ok result final →
      result =
        (added (transfer.turns (kernelWorld buffer world) state)).length
  failed :
    ∀ error final,
      transfer.run (kernelWorld buffer world) state = .err error final →
      added (transfer.turns (kernelWorld buffer world) state) = [] ∧
        ¬ transfer.Ready world state

/-- A descriptor of its kind can take a whole chunk. -/
def KindHasRoom (state : State) (fd : Fd) (chunk : List UInt8) : Prop :=
  match fd.kind with
  | .pipeWrite =>
      fd.path.length = 1 ∧
        pipeHasReader state fd.id = true ∧
        ∃ available,
          pipeAvailable state fd.id = some available ∧
            available + chunk.length ≤ Syscall.pipeCapacity
  | .socket =>
      fd.path.length = 2 ∧
        ∃ slot,
          socketPipeFor state fd.id (fd.path.getD 1 0) true = some slot ∧
            (state.pipeBuffers slot).len + chunk.length ≤ Syscall.pipeCapacity
  | .ramFile =>
      ∃ index,
        ramFileIndex state fd.path = some index ∧
          ramWriteStart state fd index + chunk.length ≤ ramFileCapacity
  | .eventFd =>
      let value := getU64 (fun index => chunk.getD index 0) 0
      fd.id < eventfdMax ∧
        (state.eventFds fd.id).used = true ∧
        chunk.length = 8 ∧
        value ≠ 0xffffffffffffffff ∧
        (state.eventFds fd.id).counter.toNat + value.toNat < 2 ^ 64
  | .tty | .null => True
  | _ => False

/-- The output can take a whole chunk. -/
def HasRoom (state : State) (fdNumber : Int) (chunk : List UInt8) : Prop :=
  let fd := state.fds fdNumber.toNat
  OpenFd state.fds fdNumber ∧
    (fdWritable fd = true ∨ fd.kind = .tty) ∧
    KindHasRoom state fd chunk

/--
A turn in which nothing goes wrong: the output can take the chunk that was
read, and a read that fails has not taken anything before.
-/
def Turn.Smooth (kernel : World) (fdIn fdOut : Int) (turn : Turn) : Prop :=
  if turn.chunk = [] then
    ¬ TakenFirst kernel turn.before fdIn turn.count
  else
    HasRoom turn.middle fdOut turn.chunk

end VibuxOS.Files
