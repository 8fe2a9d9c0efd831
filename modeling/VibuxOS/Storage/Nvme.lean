import Mathlib.Algebra.Group.Nat.Defs
import Mathlib.Logic.Function.Basic
import VibuxOS.Lib.Prog
import VibuxOS.Lib.Ring

namespace VibuxOS.Storage.Nvme

open VibuxOS.Lib

/-!
# The NVMe driver and its device

The host part of `storage/nvme.rs` and a device, as one transition system.
The host queues a command, then polls the completion queue; the device fetches
queued commands in order, executes them, and posts completions at any later
moment.  The two share the ring memory and the doorbells.

Serial numbers, counts and logs are ghosts: neither side reads them.
-/

def waitSpins : Nat := 20000000

/-- `QUEUE_DEPTH` -/
def queueDepthMax : Nat := 16

def opIoFlush : UInt8 := 0

def opIoWrite : UInt8 := 1

def opIoRead : UInt8 := 2

def opIoWriteZeroes : UInt8 := 8

/-- The errors of the modelled functions. -/
inductive NvmeError where
  | timeout
  | status (statusCode statusType : Nat)
  | invalid
  | outOfRange
  | bufferTooSmall
  deriving Repr, DecidableEq

/-- What a call returns. -/
abbrev Verdict := Except NvmeError Unit

/-- The two pairs of queues. -/
inductive QueueId where
  | admin
  | io
  deriving Repr, DecidableEq

/-! ## Ring entries -/

/-- The double words of a submission queue entry that the driver writes. -/
def commandWords
    (opcode : UInt8)
    (cid : Nat)
    (nsid : UInt32)
    (prp1 : UInt64)
    (cdw10 cdw11 cdw12 : UInt32) :
    Nat → Nat
  | 0 => opcode.toNat ||| cid <<< 16
  | 1 => nsid.toNat
  | 6 => prp1.toNat % 2 ^ 32
  | 7 => prp1.toNat >>> 32
  | 10 => cdw10.toNat
  | 11 => cdw11.toNat
  | 12 => cdw12.toNat
  | _ => 0

/-- The command id in a submission queue entry, a `u16`. -/
def commandId (words : Nat → Nat) : Nat :=
  (words 0 >>> 16) % 2 ^ 16

/-- A submission queue entry. -/
structure Command where
  words : Nat → Nat
  serial : Nat

/-- The last double word of a completion queue entry. -/
def completionWord
    (cid statusType statusCode phase : Nat) :
    Nat :=
  cid ||| (phase ||| statusCode <<< 1 ||| statusType <<< 9) <<< 16

/-- A completion queue entry: its last double word. -/
structure Completion where
  dw3 : Nat
  serial : Nat
  number : Nat
  consumed : Bool

namespace Completion

def rawStatus (entry : Completion) : Nat :=
  (entry.dw3 >>> 16) % 2 ^ 16

/-- `raw_status & 1` -/
def phaseBit (entry : Completion) : Nat :=
  entry.rawStatus % 2

def gotCid (entry : Completion) : Nat :=
  entry.dw3 % 2 ^ 16

def statusCode (entry : Completion) : Nat :=
  (entry.rawStatus >>> 1) % 2 ^ 8

def statusType (entry : Completion) : Nat :=
  (entry.rawStatus >>> 9) % 2 ^ 3

end Completion

/-- A command that the device has fetched and not yet completed. -/
structure Fetched where
  command : Command
  executed : Bool

/--
A submission and a completion queue: the host's indices, the ring memory, and
the device's indices, fetched commands and counts.
-/
structure Queue where
  tail : Nat
  head : Nat
  phase : Nat
  sq : Nat → Command
  cq : Nat → Completion
  doorbell : Nat
  fetchedTo : Nat
  postedTo : Nat
  devicePhase : Nat
  inFlight : List Fetched
  submitted : Nat
  completions : Nat

/-- What the host is doing. -/
inductive Host where
  | idle
  | waiting (queue : QueueId) (cid serial number spins : Nat)

/-- A call that has queued a command and returned. -/
structure Return where
  queue : QueueId
  serial : Nat
  number : Nat
  taken : Option Nat
  verdict : Verdict

/-- Host and device. -/
structure State where
  queue : QueueId → Queue
  nextCid : Nat
  queueDepth : Nat
  dataPhys : UInt64
  host : Host
  queued : Nat
  executed : List Nat
  completed : List (Nat × Nat × Nat)
  returns : List Return

/-! ## The host -/

namespace Queue

/-- Write an entry at the tail, move the tail on and ring the doorbell. -/
def submit
    (depth : Nat)
    (command : Command)
    (queue : Queue) :
    Queue :=
  { queue with
    sq := Function.update queue.sq queue.tail command
    tail := (queue.tail + 1) % depth
    doorbell := (queue.tail + 1) % depth
    submitted := queue.submitted + 1 }

/-- Move the head past the entry it is at. -/
def consume (depth : Nat) (queue : Queue) : Queue :=
  { queue with
    head := if queue.head + 1 ≥ depth then 0 else queue.head + 1
    phase :=
      if queue.head + 1 ≥ depth then queue.phase ^^^ 1 else queue.phase
    cq :=
      Function.update queue.cq queue.head
        { queue.cq queue.head with consumed := true } }

end Queue

/-- What `wait_cq` returns for an entry with the expected phase. -/
def verdictOf (cid : Nat) (entry : Completion) : Verdict :=
  if entry.gotCid ≠ cid then
    .error .invalid
  else if entry.statusCode ≠ 0 then
    .error (.status entry.statusCode entry.statusType)
  else
    .ok ()

/-- `next_cid.wrapping_add(1).max(1)` -/
def bumpCid (cid : Nat) : Nat :=
  max ((cid + 1) % 2 ^ 16) 1

namespace State

/-- Queue a command and start to wait for it. -/
def submit
    (queue : QueueId)
    (words : Nat → Nat)
    (state : State) :
    State :=
  { state with
    queue :=
      Function.update state.queue queue
        ((state.queue queue).submit state.queueDepth
          { words := words, serial := state.queued })
    host :=
      .waiting queue state.nextCid state.queued
        (state.queue queue).submitted waitSpins
    queued := state.queued + 1 }

/-- One iteration of the loop of `wait_cq`, with `spins` more to go. -/
def poll
    (queue : QueueId)
    (cid serial number spins : Nat)
    (state : State) :
    State :=
  let entry := (state.queue queue).cq (state.queue queue).head
  if entry.phaseBit ≠ (state.queue queue).phase then
    { state with host := .waiting queue cid serial number spins }
  else
    { state with
      queue :=
        Function.update state.queue queue
          ((state.queue queue).consume state.queueDepth)
      nextCid :=
        match verdictOf cid entry with
        | .ok () => bumpCid state.nextCid
        | .error _ => state.nextCid
      host := .idle
      returns :=
        state.returns ++
          [{ queue := queue
             serial := serial
             number := number
             taken := some entry.number
             verdict := verdictOf cid entry }] }

/-- The loop of `wait_cq` has run out. -/
def giveUp
    (queue : QueueId)
    (serial number : Nat)
    (state : State) :
    State :=
  { state with
    host := .idle
    returns :=
      state.returns ++
        [{ queue := queue
           serial := serial
           number := number
           taken := none
           verdict := .error .timeout }] }

end State

/-- The calls of the driver. -/
inductive Request where
  | ioTransfer (opcode : UInt8) (lba : UInt64) (count : UInt16)
  | submitAdmin
      (opcode : UInt8)
      (nsid : UInt32)
      (prp1 : UInt64)
      (cdw10 cdw11 cdw12 : UInt32)
  | flush
  | writeZeroes (lba : UInt64) (count : UInt16)
  deriving DecidableEq

namespace Request

/-- The queue a call uses. -/
def queue : Request → QueueId
  | .ioTransfer _ _ _ => .io
  | .submitAdmin _ _ _ _ _ _ => .admin
  | .flush => .io
  | .writeZeroes _ _ => .io

/-- The words of the entry, or the error of a call that queues nothing. -/
def words (cid : Nat) (dataPhys : UInt64) : Request → Except NvmeError (Nat → Nat)
  | .ioTransfer opcode lba count =>
      if count = 0 then
        .error .invalid
      else
        .ok (commandWords opcode cid 1 dataPhys lba.toUInt32
          (lba >>> 32).toUInt32 (count.toUInt32 - 1))
  | .submitAdmin opcode nsid prp1 cdw10 cdw11 cdw12 =>
      .ok (commandWords opcode cid nsid prp1 cdw10 cdw11 cdw12)
  | .flush =>
      .ok (commandWords opIoFlush cid 1 0 0 0 0)
  | .writeZeroes lba count =>
      if count = 0 then
        .error .invalid
      else
        .ok (commandWords opIoWriteZeroes cid 1 0 lba.toUInt32
          (lba >>> 32).toUInt32 (count.toUInt32 - 1))

end Request

def readBlocks (lba : UInt64) (count : UInt16) : Request :=
  .ioTransfer opIoRead lba count

def writeBlocks (lba : UInt64) (count : UInt16) : Request :=
  .ioTransfer opIoWrite lba count

/-! ## Steps -/

/-- The steps of host and device. -/
inductive Action where
  | reject (request : Request) (error : NvmeError)
  | call (request : Request)
  | poll
  | giveUp
  | fetch (queue : QueueId)
  | execute (queue : QueueId)
  | complete (queue : QueueId) (statusType statusCode : Nat)

namespace Queue

/-- The device takes the next command off the submission queue. -/
def fetch (depth : Nat) (queue : Queue) : Queue :=
  { queue with
    fetchedTo := (queue.fetchedTo + 1) % depth
    inFlight :=
      queue.inFlight ++ [⟨queue.sq queue.fetchedTo, false⟩] }

/-- The device posts a completion and moves on, flipping its phase at the wrap. -/
def post
    (depth : Nat)
    (command : Command)
    (statusType statusCode : Nat)
    (rest : List Fetched)
    (queue : Queue) :
    Queue :=
  { queue with
    cq :=
      Function.update queue.cq queue.postedTo
        { dw3 :=
            completionWord (commandId command.words) statusType
              statusCode queue.devicePhase
          serial := command.serial
          number := queue.completions
          consumed := false }
    postedTo :=
      if queue.postedTo + 1 ≥ depth then 0 else queue.postedTo + 1
    devicePhase :=
      if queue.postedTo + 1 ≥ depth then
        queue.devicePhase ^^^ 1
      else
        queue.devicePhase
    inFlight := rest
    completions := queue.completions + 1 }

end Queue

/--
What host and device can do.  The device takes queued commands in submission
order; once it has executed a command it can complete it at any later moment.
-/
inductive Step : State → Action → State → Prop where
  | reject
      {state : State}
      {request : Request}
      {error : NvmeError} :
      state.host = .idle →
      request.words state.nextCid state.dataPhys = .error error →
      Step state (.reject request error) state
  | call
      {state : State}
      {request : Request}
      {words : Nat → Nat} :
      state.host = .idle →
      request.words state.nextCid state.dataPhys = .ok words →
      Step state (.call request) (state.submit request.queue words)
  | poll
      {state : State}
      {queue : QueueId}
      {cid serial number spins : Nat} :
      state.host = .waiting queue cid serial number (spins + 1) →
      Step state .poll (state.poll queue cid serial number spins)
  | giveUp
      {state : State}
      {queue : QueueId}
      {cid serial number : Nat} :
      state.host = .waiting queue cid serial number 0 →
      Step state .giveUp (state.giveUp queue serial number)
  | fetch
      {state : State}
      {queue : QueueId} :
      (state.queue queue).fetchedTo ≠ (state.queue queue).doorbell →
      Step state (.fetch queue)
        { state with
          queue :=
            Function.update state.queue queue
              ((state.queue queue).fetch state.queueDepth) }
  | execute
      {state : State}
      {queue : QueueId}
      {command : Command}
      {front back : List Fetched} :
      (state.queue queue).inFlight =
        front ++ ⟨command, false⟩ :: back →
      Step state (.execute queue)
        { state with
          queue :=
            Function.update state.queue queue
              { state.queue queue with
                inFlight := front ++ ⟨command, true⟩ :: back }
          executed := state.executed ++ [command.serial] }
  | complete
      {state : State}
      {queue : QueueId}
      {command : Command}
      {front back : List Fetched}
      {statusType statusCode : Nat} :
      (state.queue queue).inFlight =
        front ++ ⟨command, true⟩ :: back →
      statusType < 2 ^ 3 →
      statusCode < 2 ^ 8 →
      Step state (.complete queue statusType statusCode)
        { state with
          queue :=
            Function.update state.queue queue
              ((state.queue queue).post state.queueDepth command
                statusType statusCode (front ++ back))
          completed :=
            state.completed ++
              [(command.serial, statusType, statusCode)] }

/-- The queues as `new` leaves them: cleared memory, phase 1. -/
def Queue.initial : Queue where
  tail := 0
  head := 0
  phase := 1
  sq := fun _ => { words := fun _ => 0, serial := 0 }
  cq := fun _ => { dw3 := 0, serial := 0, number := 0, consumed := true }
  doorbell := 0
  fetchedTo := 0
  postedTo := 0
  devicePhase := 1
  inFlight := []
  submitted := 0
  completions := 0

/-- The state in which `new` starts to queue commands. -/
def State.initial (queueDepth : Nat) (dataPhys : UInt64) : State where
  queue := fun _ => Queue.initial
  nextCid := 1
  queueDepth := queueDepth
  dataPhys := dataPhys
  host := .idle
  queued := 0
  executed := []
  completed := []
  returns := []

/-- A step that meets a condition on the state before it. -/
def StepWhere
    (allowed : State → Action → Prop)
    (before after : State) : Prop :=
  ∃ action, allowed before action ∧ Step before action after

abbrev Run (allowed : State → Action → Prop) : State → State → Prop :=
  Relation.ReflTransGen (StepWhere allowed)

end VibuxOS.Storage.Nvme
