import VibuxOS.Files.CutTransfers
import VibuxOS.Files.Polling
import VibuxOS.Files.VectoredCalls

namespace VibuxOS.Files

open VibuxOS.Lib

/-!
# Transfers at a given place

`pread64` and `preadv` read the built-in files with code of their own, and refuse
RAM files; `pwritev` hands its buffers to `write_fd` as `writev` does.  A call is
compared with `lseek` to its offset and the call without an offset: the word
that is returned, what is moved from or to which place of the file, and the
position that the descriptor is left with.
-/

variable
  {world : World}
  {buffer : UserBuffer}

/-- A buffer of the caller, and what can be copied at its address. -/
structure UserBuffer where
  copied : Nat → Nat → Bool
  source : Nat → UInt8
  len : Nat

/-- The buffers of an array, as `readv` and `writev` see them. -/
def entries
    (world : World)
    (iov : Nat → Option UserBuffer) :
    Nat →
    Option (World × Nat) :=
  fun index =>
    (iov index).map fun buffer =>
      (world.withBuffer buffer.copied buffer.source, buffer.len)

/-- Bytes that go to or come from a buffer, and their place in the file. -/
structure PlacedBytes where
  buffer : Nat
  place : Nat
  bytes : List UInt8
  deriving Repr, DecidableEq

/-- The transfer of some bytes, if there are any. -/
def transferred (buffer place : Nat) (bytes : List UInt8) : List PlacedBytes :=
  if bytes = [] then [] else [⟨buffer, place, bytes⟩]

/-- `fd_for_binary` or `fd_for_text`, by the kind of the descriptor -/
def fixedContents (world : World) (fd : Fd) : Option (List UInt8) :=
  if fd.kind = .binary then
    (world.binary fd.path).map Binary.bytes
  else
    world.text fd.path

/-! ## The calls with an offset -/

/-- The branch of `pread64` for files with fixed contents. -/
def fixedPread
    (world : World)
    (contents : Option (List UInt8))
    (count : Nat)
    (offset : UInt64) :
    Sys (List UInt8) :=
  match contents with
  | none => Prog.fail .enoent
  | some data =>
      let start := min offset.toNat data.length
      let bytes := (data.drop start).take count
      if bytes = [] ∨ world.copied 0 bytes.length then
        pure bytes
      else
        Prog.fail .efault

/-- The arm of `pread64`; the bytes that reach the caller. -/
def pread64
    (world : World)
    (fdNumber : Int)
    (count : Nat)
    (offset : UInt64) :
    Sys (List UInt8) := do
  let fd ← fdSnapshot fdNumber
  match fd.kind with
  | .binary | .text => fixedPread world (fixedContents world fd) count offset
  | .null | .zero | .tty | .eventFd | .timerFd | .signalFd =>
      readFd world fdNumber count
  | _ => Prog.fail .ebadf

/--
The loop of `preadv` over the buffers from `index` on: what it returns, and what
it has moved.
-/
def preadvLoop
    (world : World)
    (fd : Fd)
    (iov : Nat → Option UserBuffer) :
    Nat →
    Nat →
    Nat →
    UInt64 →
    Except Errno (Nat × List PlacedBytes)
  | 0, _, total, _ => .ok (total, [])
  | left + 1, index, total, currentOffset =>
      match iov index with
      | none =>
          if total = 0 then
            .error .efault
          else
            .ok (total, [])
      | some buffer =>
          let amount := min buffer.len vectorCap
          if fd.kind ≠ .binary ∧ fd.kind ≠ .text then
            .error .ebadf
          else
            match fixedContents world fd with
            | none => .error .enoent
            | some data =>
                let start := min currentOffset.toNat data.length
                let bytes := (data.drop start).take amount
                if bytes ≠ [] ∧ buffer.copied 0 bytes.length = false then
                  if total = 0 then
                    .error .efault
                  else
                    .ok (total, [])
                else if bytes.length < amount then
                  .ok (total + bytes.length, transferred index start bytes)
                else do
                  let (sum, rest) ←
                    preadvLoop world fd iov left (index + 1)
                      (total + bytes.length)
                      (currentOffset + UInt64.ofNat bytes.length)
                  .ok (sum, transferred index start bytes ++ rest)

/-- The arm of `preadv` in the table of system calls. -/
def preadv
    (world : World)
    (fdNumber : Int)
    (iov : Nat → Option UserBuffer)
    (iovCount : Nat)
    (offset : UInt64) :
    Sys (Nat × List PlacedBytes) :=
  if iovCount > 1024 then
    Prog.fail .einval
  else do
    let fd ← fdSnapshot fdNumber
    Prog.ofExcept (preadvLoop world fd iov iovCount 0 0 offset)

/-! ## What a call does -/

/-- What a call has moved, and how it ends. -/
structure CallRun where
  moved : List PlacedBytes
  outcome : Outcome State Errno Nat

namespace CallRun

/-- A call that moves nothing. -/
def ends (outcome : Outcome State Errno Nat) : CallRun :=
  ⟨[], outcome⟩

/-- Some bytes are moved first. -/
def after (transfer : PlacedBytes) (run : CallRun) : CallRun :=
  { run with moved := transfer :: run.moved }

def word (run : CallRun) : Option Nat :=
  (resultWord run.outcome).map Prod.fst

/-- Two calls return the same and move the same. -/
def Alike (first second : CallRun) : Prop :=
  first.word = second.word ∧ first.moved = second.moved

end CallRun

/-- What `write_fd` takes from its buffer. -/
def writtenBytes
    (fdNumber : Int)
    (world : World)
    (count : Nat) :
    Sys (List UInt8) := do
  let amount ← writeFd world fdNumber count
  pure (window world.source 0 amount)

/-- Where a read of a descriptor starts. -/
def readPlace (fdNumber : Int) (state : State) : Nat :=
  (state.fds fdNumber.toNat).position.toNat

/-- Where a write to a descriptor starts. -/
def writePlace (fdNumber : Int) (state : State) : Nat :=
  match ramFileIndex state (state.fds fdNumber.toNat).path with
  | some index => ramWriteStart state (state.fds fdNumber.toNat) index
  | none => readPlace fdNumber state

/-- The loop of `readv` and `writev`, with what it moves. -/
def transferRun
    (transfer : World → Nat → Sys (List UInt8))
    (place : State → Nat)
    (iov : Nat → Option (World × Nat)) :
    Nat →
    Nat →
    Nat →
    State →
    CallRun
  | 0, _, total, state => .ends (.ok total state)
  | left + 1, index, total, state =>
      match iov index with
      | none =>
          .ends (if total = 0 then .err .efault state else .ok total state)
      | some (world, len) =>
          match transfer world (min len vectorCap) state with
          | .hang => .ends .hang
          | .err error next =>
              transferRun transfer place iov left (index + 1)
                (saturatingAddUsize total (negErrno error)) next
          | .ok bytes next =>
              if bytes = [] then
                .ends (.ok total next)
              else
                .after ⟨index, place state, bytes⟩
                  (transferRun transfer place iov left (index + 1)
                    (saturatingAddUsize total bytes.length) next)

/-- What `readv` moves. -/
def readvMoved
    (fdNumber : Int)
    (iov : Nat → Option (World × Nat))
    (iovCount : Nat)
    (state : State) :
    List PlacedBytes :=
  if iovCount > 1024 then
    []
  else
    (transferRun (fun world => readFd world fdNumber) (readPlace fdNumber) iov
      iovCount 0 0 state).moved

/-- What `writev` moves. -/
def writevMoved
    (fdNumber : Int)
    (iov : Nat → Option (World × Nat))
    (iovCount : Nat)
    (state : State) :
    List PlacedBytes :=
  if iovCount > 1024 then
    []
  else
    (transferRun (writtenBytes fdNumber) (writePlace fdNumber) iov iovCount 0 0
      state).moved

/-- What `pwritev` moves. -/
def pwritevMoved
    (fdNumber : Int)
    (iov : Nat → Option (World × Nat))
    (iovCount : Nat)
    (state : State) :
    List PlacedBytes :=
  if (state.fds fdNumber.toNat).kind = .binary ∨
      (state.fds fdNumber.toNat).kind = .text then
    []
  else
    writevMoved fdNumber iov iovCount state

/-- A read into one buffer. -/
def readRun (place : Nat) : Outcome State Errno (List UInt8) → CallRun
  | .ok bytes final => ⟨transferred 0 place bytes, .ok bytes.length final⟩
  | .err error final => .ends (.err error final)
  | .hang => .ends .hang

/-- A read that says itself what it has moved. -/
def preadvRun : Outcome State Errno (Nat × List PlacedBytes) → CallRun
  | .ok (total, moved) final => ⟨moved, .ok total final⟩
  | .err error final => .ends (.err error final)
  | .hang => .ends .hang

/-- The calls with an offset, and their buffers. -/
inductive OffsetCall where
  | pread64 (buffer : UserBuffer)
  | preadv (iov : Nat → Option UserBuffer) (iovCount : Nat)
  | pwritev (iov : Nat → Option UserBuffer) (iovCount : Nat)

section Calls

variable
  (world : World)
  (fdNumber : Int)
  (offset : UInt64)

def OffsetCall.run (state : State) : OffsetCall → CallRun
  | .pread64 buffer =>
      readRun offset.toNat
        (Files.pread64 (world.withBuffer buffer.copied buffer.source) fdNumber
          buffer.len offset state)
  | .preadv iov iovCount =>
      preadvRun (Files.preadv world fdNumber iov iovCount offset state)
  | .pwritev iov iovCount =>
      ⟨pwritevMoved fdNumber (entries world iov) iovCount state,
        Files.pwritev fdNumber (entries world iov) iovCount state⟩

def OffsetCall.plain (state : State) : OffsetCall → CallRun
  | .pread64 buffer =>
      readRun (readPlace fdNumber state)
        (readFd (world.withBuffer buffer.copied buffer.source) fdNumber
          buffer.len state)
  | .preadv iov iovCount =>
      ⟨readvMoved fdNumber (entries world iov) iovCount state,
        readv fdNumber (entries world iov) iovCount state⟩
  | .pwritev iov iovCount =>
      ⟨writevMoved fdNumber (entries world iov) iovCount state,
        writev fdNumber (entries world iov) iovCount state⟩

/-- `lseek` to the offset, and then the call without it. -/
def OffsetCall.sequential (state : State) (call : OffsetCall) : CallRun :=
  match lseek world fdNumber offset 0 state with
  | .ok _ next => call.plain world fdNumber next
  | .err error final => .ends (.err error final)
  | .hang => .ends .hang

/-- A call with an offset does what it is to do. -/
structure Positional (state : State) (call : OffsetCall) : Prop where
  alike :
    (call.run world fdNumber offset state).Alike
      (call.sequential world fdNumber offset state)
  position :
    ∀ final,
      (call.run world fdNumber offset state).outcome.final? = some final →
      (final.fds fdNumber.toNat).position = (state.fds fdNumber.toNat).position

end Calls

def FileKind.Seekable (kind : FileKind) : Prop :=
  kind = .binary ∨ kind = .text ∨ kind = .ramFile

/-- The built-in files are slices, which have fewer than `2 ^ 63` bytes. -/
structure World.Slices (world : World) : Prop where
  binary :
    ∀ path file,
      world.binary path = some file →
      file.bytes.length < 2 ^ 63
  text : ∀ path data, world.text path = some data → data.length < 2 ^ 63

/-- The buffers up to the first that is empty or that is not there. -/
def asked (iov : Nat → Option UserBuffer) : Nat → Nat → List UserBuffer
  | 0, _ => []
  | left + 1, index =>
      match iov index with
      | none => []
      | some buffer =>
          if buffer.len = 0 then
            []
          else
            buffer :: asked iov left (index + 1)

/-! ## The loop of the calls without an offset -/

section Loops

variable
  {transfer : World → Nat → Sys (List UInt8)}
  {place : State → Nat}
  {iov : Nat → Option (World × Nat)}

/-- The loop ends as the arm of the system call does. -/
theorem vectorLoop_eq_transferRun
    {counted : World → Nat → Sys Nat}
    (counts :
      ∀ world count,
        counted world count =
          transfer world count >>= fun bytes => pure bytes.length)
    (left index total : Nat)
    (state : State) :
    vectorLoop counted iov left index total state =
      (transferRun transfer place iov left index total state).outcome := by
  induction left generalizing index total state with
  | zero =>
      rfl
  | succ left inductionHypothesis =>
      unfold vectorLoop transferRun
      cases entry : iov index with
      | none =>
          dsimp only
          split <;> rfl
      | some buffer =>
          obtain ⟨world, len⟩ := buffer
          dsimp only
          cases outcome : transfer world (min len vectorCap) state with
          | ok bytes next =>
              have returned :
                  counted world (min len vectorCap) state =
                    .ok bytes.length next := by
                rw [counts]
                exact Prog.bind_of_ok outcome
              rw [Prog.bind_of_ok (Prog.attempt_of_ok returned)]
              dsimp only
              by_cases nothing : bytes = []
              · subst nothing
                rfl
              · rw [if_neg nothing,
                  if_pos (List.length_pos_of_ne_nil nothing)]
                exact inductionHypothesis _ _ _
          | err error next =>
              have failed :
                  counted world (min len vectorCap) state = .err error next := by
                rw [counts]
                exact Prog.bind_of_err outcome
              rw [Prog.bind_of_ok (Prog.attempt_of_err failed)]
              exact inductionHypothesis _ _ _
          | hang =>
              have stuck : counted world (min len vectorCap) state = .hang := by
                rw [counts]
                exact Prog.bind_of_hang outcome
              rw [Prog.bind_of_hang (Prog.attempt_of_hang stuck)]
              rfl

end Loops

theorem writeTransfer_eq
    (fdNumber : Int)
    (world : World)
    (count : Nat) :
    writeTransfer fdNumber world count =
      writtenBytes fdNumber world count >>= fun bytes => pure bytes.length := by
  funext state
  unfold writeTransfer
  cases outcome : writeFd world fdNumber count state with
  | ok amount next =>
      have written :
          writtenBytes fdNumber world count state =
            .ok (window world.source 0 amount) next :=
        Prog.bind_of_ok outcome
      rw [Prog.bind_of_ok written, length_window]
      rfl
  | err error next =>
      have failed : writtenBytes fdNumber world count state = .err error next :=
        Prog.bind_of_err outcome
      rw [Prog.bind_of_err failed]
  | hang =>
      have stuck : writtenBytes fdNumber world count state = .hang :=
        Prog.bind_of_hang outcome
      rw [Prog.bind_of_hang stuck]

/-! ## Buffers that all meet the same error -/

/-- What the loop returns when every buffer that it asks for has an error. -/
def stuckWord
    (iov : Nat → Option UserBuffer)
    (error : Errno) :
    Nat →
    Nat →
    Nat →
    Nat
  | 0, _, total => total
  | left + 1, index, total =>
      match iov index with
      | none => if total = 0 then negErrno .efault else total
      | some buffer =>
          if buffer.len = 0 then
            total
          else
            stuckWord iov error left (index + 1)
              (saturatingAddUsize total (negErrno error))

theorem saturatingAddUsize_lt
    (left right : Nat) :
    saturatingAddUsize left right < 2 ^ 64 := by
  unfold saturatingAddUsize
  omega

section Stuck

variable
  {iov : Nat → Option UserBuffer}
  {error : Errno}
  {left index total : Nat}

theorem entries_of_none
    (noEntry : iov index = none) :
    entries world iov index = none := by
  unfold entries
  rw [noEntry, Option.map_none]

theorem entries_of_some
    (entry : iov index = some buffer) :
    entries world iov index =
      some (world.withBuffer buffer.copied buffer.source, buffer.len) := by
  unfold entries
  rw [entry, Option.map_some]

theorem len_ne_zero_of_asked
    (member : buffer ∈ asked iov left index) :
    buffer.len ≠ 0 := by
  induction left generalizing index with
  | zero =>
      cases member
  | succ left inductionHypothesis =>
      unfold asked at member
      cases entry : iov index with
      | none =>
          rw [entry] at member
          cases member
      | some first =>
          rw [entry] at member
          dsimp only at member
          by_cases empty : first.len = 0
          · rw [if_pos empty] at member
            cases member
          · rw [if_neg empty] at member
            rcases List.mem_cons.mp member with rfl | later
            · exact empty
            · exact inductionHypothesis later

theorem stuckWord_of_nothing_asked
    (other : Errno)
    (nothing : asked iov left index = []) :
    stuckWord iov error left index total =
      stuckWord iov other left index total := by
  cases left with
  | zero =>
      rfl
  | succ left =>
      unfold asked at nothing
      unfold stuckWord
      cases entry : iov index with
      | none =>
          rfl
      | some buffer =>
          rw [entry] at nothing
          dsimp only at nothing ⊢
          by_cases empty : buffer.len = 0
          · rw [if_pos empty, if_pos empty]
          · rw [if_neg empty] at nothing
            cases nothing

theorem stuckWord_of_counted
    (counted : total ≠ 0)
    (isWord : total < 2 ^ 64) :
    stuckWord iov error left index total =
      min (2 ^ 64 - 1)
        (total + (asked iov left index).length * negErrno error) := by
  induction left generalizing index total with
  | zero =>
      change total = min (2 ^ 64 - 1) (total + 0 * negErrno error)
      omega
  | succ left inductionHypothesis =>
      unfold stuckWord asked
      cases entry : iov index with
      | none =>
          dsimp only
          rw [if_neg counted, List.length_nil]
          omega
      | some buffer =>
          dsimp only
          by_cases empty : buffer.len = 0
          · rw [if_pos empty, if_pos empty, List.length_nil]
            omega
          · rw [if_neg empty, if_neg empty, List.length_cons, Nat.succ_mul,
              inductionHypothesis _ (saturatingAddUsize_lt _ _)]
            · unfold saturatingAddUsize
              omega
            · unfold saturatingAddUsize
              omega

theorem stuckWord_of_asked
    (something : asked iov left index ≠ [])
    (isWord : total < 2 ^ 64) :
    stuckWord iov error left index total =
      min (2 ^ 64 - 1)
        (total + (asked iov left index).length * negErrno error) := by
  cases left with
  | zero =>
      exact (something rfl).elim
  | succ left =>
      unfold asked at something ⊢
      unfold stuckWord
      cases entry : iov index with
      | none =>
          rw [entry] at something
          exact (something rfl).elim
      | some buffer =>
          rw [entry] at something
          dsimp only at something ⊢
          by_cases empty : buffer.len = 0
          · rw [if_pos empty] at something
            exact (something rfl).elim
          · have large := (negErrno_pos_lt error).1
            rw [if_neg empty, if_neg empty, List.length_cons, Nat.succ_mul,
              stuckWord_of_counted _ (saturatingAddUsize_lt _ _)]
            · unfold saturatingAddUsize
              omega
            · unfold saturatingAddUsize
              omega

theorem stuckWord_of_start
    (something : asked iov left index ≠ []) :
    stuckWord iov error left index 0 =
      if (asked iov left index).length = 1 then
        negErrno error
      else
        2 ^ 64 - 1 := by
  have positive := List.length_pos_of_ne_nil something
  obtain ⟨large, isWord⟩ := negErrno_pos_lt error
  rw [stuckWord_of_asked something (by decide), Nat.zero_add]
  by_cases one : (asked iov left index).length = 1
  · rw [if_pos one, one, Nat.one_mul]
    omega
  · rw [if_neg one]
    have twice : 2 * negErrno error ≤
        (asked iov left index).length * negErrno error :=
      Nat.mul_le_mul_right _ (by omega)
    omega

variable
  {transfer : World → Nat → Sys (List UInt8)}
  {place : State → Nat}
  {world : World}
  {state : State}

theorem transferRun_of_none
    (noEntry : iov index = none) :
    transferRun transfer place (entries world iov) (left + 1) index total
        state =
      .ends (if total = 0 then .err .efault state else .ok total state) := by
  unfold transferRun
  rw [entries_of_none noEntry]

theorem transferRun_of_ok
    {bytes : List UInt8}
    {next : State}
    (entry : iov index = some buffer)
    (returned :
      transfer (world.withBuffer buffer.copied buffer.source)
          (min buffer.len vectorCap) state =
        .ok bytes next) :
    transferRun transfer place (entries world iov) (left + 1) index total
        state =
      if bytes = [] then
        .ends (.ok total next)
      else
        .after ⟨index, place state, bytes⟩
          (transferRun transfer place (entries world iov) left (index + 1)
            (saturatingAddUsize total bytes.length) next) := by
  conv_lhs => unfold transferRun
  rw [entries_of_some entry]
  dsimp only
  rw [returned]

theorem transferRun_of_err
    {next : State}
    (entry : iov index = some buffer)
    (failed :
      transfer (world.withBuffer buffer.copied buffer.source)
          (min buffer.len vectorCap) state =
        .err error next) :
    transferRun transfer place (entries world iov) (left + 1) index total
        state =
      transferRun transfer place (entries world iov) left (index + 1)
        (saturatingAddUsize total (negErrno error)) next := by
  conv_lhs => unfold transferRun
  rw [entries_of_some entry]
  dsimp only
  rw [failed]

theorem transferRun_of_empty
    (returnsNil : ∀ world, transfer world 0 state = .ok [] state)
    (entry : iov index = some buffer)
    (empty : buffer.len = 0) :
    transferRun transfer place (entries world iov) (left + 1) index total
        state =
      .ends (.ok total state) := by
  rw [transferRun_of_ok entry, if_pos rfl]
  rw [empty, Nat.zero_min]
  exact returnsNil _

theorem transferRun_of_stuck
    (empty : ∀ world, transfer world 0 state = .ok [] state)
    (stuck :
      ∀ buffer ∈ asked iov left index,
        transfer (world.withBuffer buffer.copied buffer.source)
            (min buffer.len vectorCap) state =
          .err error state) :
    (transferRun transfer place (entries world iov) left index total
          state).moved =
        [] ∧
      resultWord
          (transferRun transfer place (entries world iov) left index total
            state).outcome =
        some (stuckWord iov error left index total, state) := by
  induction left generalizing index total with
  | zero =>
      exact ⟨rfl, rfl⟩
  | succ left inductionHypothesis =>
      unfold asked at stuck
      unfold stuckWord
      cases entry : iov index with
      | none =>
          rw [transferRun_of_none entry]
          dsimp only
          by_cases nothing : total = 0
          · rw [if_pos nothing, if_pos nothing]
            exact ⟨rfl, rfl⟩
          · rw [if_neg nothing, if_neg nothing]
            exact ⟨rfl, rfl⟩
      | some buffer =>
          rw [entry] at stuck
          dsimp only at stuck ⊢
          by_cases isEmpty : buffer.len = 0
          · rw [transferRun_of_empty empty entry isEmpty, if_pos isEmpty]
            exact ⟨rfl, rfl⟩
          · rw [if_neg isEmpty] at stuck ⊢
            rw [transferRun_of_err entry (stuck buffer List.mem_cons_self)]
            exact
              inductionHypothesis fun other isAsked =>
                stuck other (List.mem_cons_of_mem _ isAsked)

theorem le_word_of_counted
    {buffers : Nat → Option (World × Nat)}
    {word : Nat}
    (counted : total ≠ 0)
    (isWord : total < 2 ^ 64)
    (returned :
      (transferRun transfer place buffers left index total state).word =
        some word) :
    total ≤ word := by
  induction left generalizing index total state with
  | zero =>
      cases returned
      exact Nat.le_refl _
  | succ left inductionHypothesis =>
      have grows (more : Nat) : total ≤ saturatingAddUsize total more := by
        unfold saturatingAddUsize
        omega
      have later
          {next : State}
          {more : Nat}
          (returned :
            (transferRun transfer place buffers left (index + 1)
              (saturatingAddUsize total more) next).word =
              some word) :
          total ≤ word := by
        have above := grows more
        exact
          Nat.le_trans above
            (inductionHypothesis (by omega) (saturatingAddUsize_lt _ _)
              returned)
      unfold transferRun at returned
      cases entry : buffers index with
      | none =>
          rw [entry] at returned
          dsimp only at returned
          rw [if_neg counted] at returned
          cases returned
          exact Nat.le_refl _
      | some buffer =>
          rw [entry] at returned
          dsimp only at returned
          cases outcome : transfer buffer.1 (min buffer.2 vectorCap) state with
          | hang =>
              rw [outcome] at returned
              cases returned
          | err error next =>
              rw [outcome] at returned
              exact later returned
          | ok bytes next =>
              rw [outcome] at returned
              dsimp only at returned
              by_cases nothing : bytes = []
              · rw [if_pos nothing] at returned
                cases returned
                exact Nat.le_refl _
              · rw [if_neg nothing] at returned
                exact later returned

end Stuck

/-! ## Seeking -/

theorem asI64_of_lt
    {word : UInt64}
    (small : word.toNat < 2 ^ 63) :
    asI64 word = word.toNat := by
  unfold asI64
  rw [BitVec.toInt_eq_toNat_of_lt]
  · rfl
  · change 2 * word.toNat < 2 ^ 64
    omega

theorem asI64_neg_of_le
    {word : UInt64}
    (large : 2 ^ 63 ≤ word.toNat) :
    asI64 word < 0 := by
  unfold asI64
  have isWord := word.toNat_lt
  have value := BitVec.toInt_eq_toNat_cond word.toBitVec
  rw [if_neg] at value
  · change word.toBitVec.toInt = (word.toNat : Int) - _ at value
    rw [value]
    omega
  · change ¬ 2 * word.toNat < 2 ^ 64
    omega

theorem lseek_of_open
    {state : State}
    {fdNumber : Int}
    {offset : UInt64}
    (isOpen : OpenFd state.fds fdNumber)
    (seekable : (state.fds fdNumber.toNat).kind.Seekable) :
    lseek world fdNumber offset 0 state =
      if offset.toNat < 2 ^ 63 then
        .ok offset (state.setPosition fdNumber.toNat offset.toNat)
      else
        .err .einval state := by
  have canSeek : (state.fds fdNumber.toNat).kind.unseekable = false := by
    rcases seekable with kind | kind | kind <;> rw [kind] <;> rfl
  unfold lseek
  rw [Prog.bind_of_ok (fdSnapshot_of_open isOpen), canSeek,
    if_neg Bool.noConfusion, Prog.gets_bind_apply]
  change
    (if asI64 offset < 0 then
        Prog.fail .einval
      else do
        Prog.modify (State.setPosition fdNumber.toNat (asI64 offset).toNat)
        pure (UInt64.ofNat (asI64 offset).toNat) : Sys UInt64) state = _
  by_cases small : offset.toNat < 2 ^ 63
  · rw [if_pos small, asI64_of_lt small, if_neg (by omega), Int.toNat_natCast,
      UInt64.ofNat_toNat]
    rfl
  · rw [if_neg small, if_pos (asI64_neg_of_le (by omega))]
    rfl

end VibuxOS.Files
