import VibuxOS.Files.ChunkedCopies
import VibuxOS.Files.FileCalls
import VibuxOS.Files.TerminalReads

namespace VibuxOS.Files

open VibuxOS.Lib

/-!
# What `poll` promises about the next transfer

`poll_fd_revents` looks at a descriptor by its kind, and so do `read_fd` and
`write_fd`, each in a match of its own.  What it reports for sockets and for the
kinds that it does not name, and what it leaves to the access mode, is not what
the transfers do.
-/

variable
  {state : State}
  {events : UInt16}
  {program : Sys Nat}
  {final : State}

def pollIn : UInt16 := 0x01

def pollOut : UInt16 := 0x04

def pollErr : UInt16 := 0x08

def pollHup : UInt16 := 0x10

def pollNval : UInt16 := 0x20

/-- `POLLIN | POLLRDNORM` -/
def pollReads : UInt16 := pollIn ||| 0x40

/-- `POLLOUT | POLLWRNORM` -/
def pollWrites : UInt16 := pollOut ||| 0x100

/-- `tty::input_available`; `keyboardReady` is `keyboard_has_scancode`. -/
def inputAvailable
    (world : World)
    (keyboardReady : Bool)
    (state : State) :
    Bool :=
  !state.terminal.input.isEmpty || world.serialReady || keyboardReady

/-- Some bits, when they are asked for and a condition holds. -/
def reportIf (events bits : UInt16) (condition : Bool) : UInt16 :=
  if events &&& bits ≠ 0 ∧ condition = true then bits else 0

/-- What `poll_fd_revents` finds out about an open descriptor. -/
def pollKind
    (world : World)
    (keyboardReady : Bool)
    (fd : Fd)
    (events : UInt16) :
    Sys UInt16 := do
  let state ← Prog.gets id
  match fd.kind with
  | .tty =>
      pure
        (reportIf events pollReads (inputAvailable world keyboardReady state) |||
          reportIf events pollWrites true)
  | .pipeRead =>
      match pipeAvailable state fd.id with
      | none => pure 0
      | some available =>
          pure
            (reportIf events pollReads (decide (available > 0)) |||
              if pipeHasWriter state fd.id then 0 else pollHup)
  | .pipeWrite =>
      match pipeAvailable state fd.id with
      | none => pure 0
      | some available =>
          pure
            (reportIf events pollWrites
                (decide (available < Syscall.pipeCapacity)) |||
              if pipeHasReader state fd.id then 0 else pollErr)
  | .eventFd =>
      if fd.id ≥ eventfdMax then
        Prog.hang
      else
        let event := state.eventFds fd.id
        pure
          (reportIf events pollReads (event.used && event.counter != 0) |||
            reportIf events pollWrites true)
  | .timerFd =>
      if fd.id ≥ timerfdMax then
        Prog.hang
      else
        let timer := state.timerFds fd.id
        pure
          (reportIf events pollReads
            (timer.used && timer.armed &&
              decide (timer.expiresNs ≤ world.nowNs)))
  | .signalFd =>
      if fd.id ≥ signalfdMax then
        Prog.hang
      else
        let signal := state.signalFds fd.id
        pure
          (reportIf events pollReads
            (signal.used && state.pending &&& signal.mask != 0))
  | _ =>
      pure
        (reportIf events pollReads true |||
          reportIf events pollWrites (fdWritable fd))

def pollFdRevents
    (world : World)
    (keyboardReady : Bool)
    (fdNumber : Int)
    (events : UInt16) :
    Sys UInt16 := do
  let snapshot ← Prog.attempt (fdSnapshot fdNumber)
  match snapshot with
  | .error _ => pure pollNval
  | .ok fd => pollKind world keyboardReady fd events

/-! ## What is to hold, and when it does -/

/-- A buffer of a size is mapped at the address of the call. -/
def World.Maps (world : World) (count : Nat) : Prop :=
  ∀ offset len, offset + len ≤ count → world.copied offset len = true

/-- The same surroundings with another buffer at the address of the call. -/
def World.withBuffer
    (world : World)
    (copied : Nat → Nat → Bool)
    (source : Nat → UInt8) :
    World :=
  { world with
    copied := copied
    source := source }

/-- Adding a value to an event counter would overflow it. -/
def Overflows (state : State) (fd : Fd) (value : UInt64) : Prop :=
  fd.kind = .eventFd ∧
    (state.eventFds fd.id).counter.toNat + value.toNat ≥ 2 ^ 64

/--
Events that are reported truthfully: a read into a mapped buffer of at least 128
bytes has no error, and a write of eight mapped bytes neither has to wait nor
finds a bad descriptor, except that an event counter may be about to overflow.
-/
structure Honest
    (world : World)
    (state : State)
    (fdNumber : Int)
    (revents : UInt16) : Prop where
  reads :
    revents &&& pollIn ≠ 0 →
    ∀ copied source count,
      128 ≤ count →
      (world.withBuffer copied source).Maps count →
      (readFd (world.withBuffer copied source) fdNumber count state).error? =
        none
  writes :
    revents &&& pollOut ≠ 0 →
    ∀ copied source error,
      (world.withBuffer copied source).Maps 8 →
      (writeFd (world.withBuffer copied source) fdNumber 8 state).error? =
        some error →
      error ≠ .ebadf ∧
        (error = .eagain →
          Overflows state (state.fds fdNumber.toNat) (getU64 source 0))

/-- When `POLLIN` is reported. -/
def SaysIn
    (world : World)
    (keyboardReady : Bool)
    (state : State)
    (fd : Fd)
    (events : UInt16) : Prop :=
  events &&& pollReads ≠ 0 ∧
    match fd.kind with
    | .tty => inputAvailable world keyboardReady state = true
    | .pipeRead =>
        ∃ available, pipeAvailable state fd.id = some available ∧ 0 < available
    | .pipeWrite => False
    | .eventFd =>
        fd.id < eventfdMax ∧
          (state.eventFds fd.id).used = true ∧
          (state.eventFds fd.id).counter ≠ 0
    | .timerFd =>
        fd.id < timerfdMax ∧
          (state.timerFds fd.id).used = true ∧
          (state.timerFds fd.id).armed = true ∧
          (state.timerFds fd.id).expiresNs ≤ world.nowNs
    | .signalFd =>
        fd.id < signalfdMax ∧
          (state.signalFds fd.id).used = true ∧
          state.pending &&& (state.signalFds fd.id).mask ≠ 0
    | _ => True

/-- When `POLLOUT` is reported. -/
def SaysOut (state : State) (fd : Fd) (events : UInt16) : Prop :=
  events &&& pollWrites ≠ 0 ∧
    match fd.kind with
    | .tty => True
    | .pipeRead => False
    | .pipeWrite =>
        ∃ available,
          pipeAvailable state fd.id = some available ∧
            available < Syscall.pipeCapacity
    | .eventFd => fd.id < eventfdMax
    | .timerFd => False
    | .signalFd => False
    | _ => fdWritable fd = true

/--
What a read needs besides what `poll` looks at: the access mode, a character
without an interrupting signal, an entry or a file that is there, and on a
socket that does not wait something to read.
-/
def ReadsFine (world : World) (state : State) (fd : Fd) : Prop :=
  fdReadable fd = true ∧
    match fd.kind with
    | .tty =>
        ¬ (fd.flags &&& Syscall.oNonblock ≠ 0 ∧ world.serialReady = false) ∧
          ∀ after, readByte state = .ok 0 after → interrupts after = false
    | .pipeRead => fd.path.length = 1
    | .socket =>
        fd.path.length = 2 ∧
          ∃ slot,
            socketPipeFor state fd.id (fd.path.getD 1 0) false = some slot ∧
              ((state.pipeBuffers slot).len = 0 →
                fd.flags &&& Syscall.oNonblock = 0)
    | .ramFile => (ramFileIndex state fd.path).isSome = true
    | .binary => (world.binary fd.path).isSome = true
    | .text => (world.text fd.path).isSome = true
    | .none => False
    | .epoll => False
    | .inotify => False
    | _ => True

/--
What a write needs besides what `poll` looks at: the access mode, except on a
terminal, an event counter that is there, room in the buffer of a socket, and a
kind that can be written at all.
-/
def WritesFine (state : State) (fd : Fd) : Prop :=
  (fdWritable fd = true ∨ fd.kind = .tty) ∧
    match fd.kind with
    | .pipeWrite => fd.path.length = 1
    | .socket =>
        fd.path.length = 2 →
        ∀ slot,
          socketPipeFor state fd.id (fd.path.getD 1 0) true = some slot →
          (state.pipeBuffers slot).len < Syscall.pipeCapacity
    | .eventFd => (state.eventFds fd.id).used = true
    | .tty => True
    | .ramFile => True
    | .null => True
    | .binary => True
    | .text => True
    | _ => False

/-! ## What is reported -/

theorem or_and_bits
    (first second bits : UInt16) :
    (first ||| second) &&& bits = first &&& bits ||| second &&& bits := by
  apply UInt16.eq_of_toBitVec_eq
  simp only [UInt16.toBitVec_and, UInt16.toBitVec_or]
  exact BitVec.and_or_distrib_right

theorem reportIf_and_ne_zero
    {events bits bit : UInt16}
    {condition : Bool}
    (among : bits &&& bit ≠ 0) :
    reportIf events bits condition &&& bit ≠ 0 ↔
      events &&& bits ≠ 0 ∧ condition = true := by
  unfold reportIf
  split
  case isTrue both =>
    exact ⟨fun _ => both, fun _ => among⟩
  case isFalse missing =>
    rw [UInt16.zero_and]
    exact ⟨fun reported => (reported rfl).elim, fun both => (missing both).elim⟩

theorem reportIf_and_eq_zero
    {events bits bit : UInt16}
    {condition : Bool}
    (apart : bits &&& bit = 0) :
    reportIf events bits condition &&& bit = 0 := by
  unfold reportIf
  split
  · exact apart
  · exact UInt16.zero_and

theorem or_and_ne_zero_iff
    {first second bit : UInt16}
    (apart : second &&& bit = 0) :
    (first ||| second) &&& bit ≠ 0 ↔ first &&& bit ≠ 0 := by
  rw [or_and_bits, apart, UInt16.or_zero]

theorem or_and_ne_zero_iff'
    {first second bit : UInt16}
    (apart : first &&& bit = 0) :
    (first ||| second) &&& bit ≠ 0 ↔ second &&& bit ≠ 0 := by
  rw [or_and_bits, apart, UInt16.zero_or]

/-- A bit is among what a call returns. -/
def Reports (program : Sys UInt16) (state : State) (bit : UInt16) : Prop :=
  ∃ revents final, program state = .ok revents final ∧ revents &&& bit ≠ 0

theorem reports_pure
    {revents bit : UInt16} :
    Reports (pure revents) state bit ↔ revents &&& bit ≠ 0 := by
  constructor
  · rintro ⟨_, _, returned, reported⟩
    cases returned
    exact reported
  · intro reported
    exact ⟨revents, state, rfl, reported⟩

theorem not_reports_hang
    {bit : UInt16} :
    ¬ Reports Prog.hang state bit := by
  rintro ⟨_, _, returned, _⟩
  cases returned

theorem reports_gets_bind
    {α : Type}
    {view : State → α}
    {next : α → Sys UInt16}
    {bit : UInt16} :
    Reports (Prog.gets view >>= next) state bit ↔
      Reports (next (view state)) state bit :=
  Iff.rfl

section Reported

variable
  {world : World}
  {keyboardReady : Bool}
  {state : State}
  {fd : Fd}
  {events : UInt16}

theorem pollIn_reported_iff :
    Reports (pollKind world keyboardReady fd events) state pollIn ↔
      SaysIn world keyboardReady state fd events := by
  have reads (condition : Bool) :
      reportIf events pollReads condition &&& pollIn ≠ 0 ↔
        events &&& pollReads ≠ 0 ∧ condition = true :=
    reportIf_and_ne_zero (by decide)
  have noWrites (condition : Bool) :
      reportIf events pollWrites condition &&& pollIn = 0 :=
    reportIf_and_eq_zero (by decide)
  unfold pollKind SaysIn
  rw [reports_gets_bind, id]
  cases kind : fd.kind with
  | tty =>
      rw [reports_pure, or_and_ne_zero_iff (noWrites _), reads]
  | pipeRead =>
      dsimp only
      cases found : pipeAvailable state fd.id with
      | none =>
          rw [reports_pure, UInt16.zero_and]
          simp
      | some available =>
          have noHangUp :
              (if pipeHasWriter state fd.id then 0 else pollHup) &&& pollIn =
                0 := by
            split <;> rfl
          rw [reports_pure, or_and_ne_zero_iff noHangUp, reads]
          simp
  | pipeWrite =>
      dsimp only
      cases found : pipeAvailable state fd.id with
      | none =>
          rw [reports_pure, UInt16.zero_and]
          simp
      | some available =>
          have noError :
              (if pipeHasReader state fd.id then 0 else pollErr) &&& pollIn =
                0 := by
            split <;> rfl
          rw [reports_pure, or_and_ne_zero_iff noError]
          simp [noWrites]
  | eventFd =>
      dsimp only
      split
      case isTrue outside =>
        have noEntry : ¬ fd.id < eventfdMax := Nat.not_lt.mpr outside
        simp [not_reports_hang, noEntry]
      case isFalse inside =>
        rw [reports_pure, or_and_ne_zero_iff (noWrites _), reads]
        simp [Nat.lt_of_not_le inside]
  | timerFd =>
      dsimp only
      split
      case isTrue outside =>
        have noEntry : ¬ fd.id < timerfdMax := Nat.not_lt.mpr outside
        simp [not_reports_hang, noEntry]
      case isFalse inside =>
        rw [reports_pure, reads]
        simp [Nat.lt_of_not_le inside, and_assoc]
  | signalFd =>
      dsimp only
      split
      case isTrue outside =>
        have noEntry : ¬ fd.id < signalfdMax := Nat.not_lt.mpr outside
        simp [not_reports_hang, noEntry]
      case isFalse inside =>
        rw [reports_pure, reads]
        simp [Nat.lt_of_not_le inside]
  | _ =>
      rw [reports_pure, or_and_ne_zero_iff (noWrites _), reads]
      simp only [and_true]

theorem pollOut_reported_iff :
    Reports (pollKind world keyboardReady fd events) state pollOut ↔
      SaysOut state fd events := by
  have writes (condition : Bool) :
      reportIf events pollWrites condition &&& pollOut ≠ 0 ↔
        events &&& pollWrites ≠ 0 ∧ condition = true :=
    reportIf_and_ne_zero (by decide)
  have noReads (condition : Bool) :
      reportIf events pollReads condition &&& pollOut = 0 :=
    reportIf_and_eq_zero (by decide)
  unfold pollKind SaysOut
  rw [reports_gets_bind, id]
  cases kind : fd.kind with
  | tty =>
      rw [reports_pure, or_and_ne_zero_iff' (noReads _), writes]
      simp
  | pipeRead =>
      dsimp only
      cases found : pipeAvailable state fd.id with
      | none =>
          rw [reports_pure, UInt16.zero_and]
          simp
      | some available =>
          have noHangUp :
              (if pipeHasWriter state fd.id then 0 else pollHup) &&& pollOut =
                0 := by
            split <;> rfl
          rw [reports_pure, or_and_ne_zero_iff noHangUp]
          simp [noReads]
  | pipeWrite =>
      dsimp only
      cases found : pipeAvailable state fd.id with
      | none =>
          rw [reports_pure, UInt16.zero_and]
          simp
      | some available =>
          have noError :
              (if pipeHasReader state fd.id then 0 else pollErr) &&& pollOut =
                0 := by
            split <;> rfl
          rw [reports_pure, or_and_ne_zero_iff noError, writes]
          simp
  | eventFd =>
      dsimp only
      split
      case isTrue outside =>
        have noEntry : ¬ fd.id < eventfdMax := Nat.not_lt.mpr outside
        simp [not_reports_hang, noEntry]
      case isFalse inside =>
        rw [reports_pure, or_and_ne_zero_iff' (noReads _), writes]
        simp [Nat.lt_of_not_le inside]
  | timerFd =>
      dsimp only
      split
      case isTrue outside =>
        simp [not_reports_hang]
      case isFalse inside =>
        rw [reports_pure]
        simp [noReads]
  | signalFd =>
      dsimp only
      split
      case isTrue outside =>
        simp [not_reports_hang]
      case isFalse inside =>
        rw [reports_pure]
        simp [noReads]
  | _ =>
      rw [reports_pure, or_and_ne_zero_iff' (noReads _), writes]

end Reported

/-! ## Reads into a mapped buffer -/

theorem chunksCopied_of_maps
    {world : World}
    {size : Nat}
    (maps : world.Maps size)
    {chunk amount : Nat}
    (positive : 0 < chunk)
    (fits : amount ≤ size) :
    chunksCopied world chunk amount amount 0 = amount := by
  rw [chunksCopied_eq_amount_iff positive]
  intro index inside
  exact maps _ _ (by omega)

section Reads

variable
  {world : World}
  {state : State}
  {fdNumber : Int}
  {fd : Fd}
  {count : Nat}

section

variable (maps : world.Maps count)

include maps

theorem eventFdRead_error?
    (room : 128 ≤ count)
    (inTable : fd.id < eventfdMax)
    (used : (state.eventFds fd.id).used = true)
    (counts : (state.eventFds fd.id).counter ≠ 0) :
    (eventFdRead world fd count state).error? = none := by
  unfold eventFdRead
  rw [if_neg (Nat.not_le.mpr inTable), Prog.gets_bind_apply,
    if_neg (by simp [used]), if_neg counts, Prog.modify_bind_apply,
    if_neg (by omega), copyUserOut_eq, length_leBytes,
    if_pos (maps 0 8 (by omega))]
  rfl

theorem timerFdRead_error?
    (room : 128 ≤ count)
    (inTable : fd.id < timerfdMax)
    (used : (state.timerFds fd.id).used = true)
    (armed : (state.timerFds fd.id).armed = true)
    (expired : (state.timerFds fd.id).expiresNs ≤ world.nowNs) :
    (timerFdRead world fd count state).error? = none := by
  unfold timerFdRead
  rw [if_neg (Nat.not_le.mpr inTable), Prog.gets_bind_apply,
    if_neg (by simp [used]), if_neg (by simp [armed]),
    if_neg (UInt64.not_lt.mpr expired), Prog.modify_bind_apply,
    if_neg (by omega), copyUserOut_eq, length_leBytes,
    if_pos (maps 0 8 (by omega))]
  rfl

theorem signalFdRead_error?
    (room : 128 ≤ count)
    (inTable : fd.id < signalfdMax)
    (used : (state.signalFds fd.id).used = true)
    (pending : state.pending &&& (state.signalFds fd.id).mask ≠ 0) :
    (signalFdRead world fd count state).error? = none := by
  unfold signalFdRead
  rw [if_neg (Nat.not_le.mpr inTable), Prog.gets_bind_apply, id]
  dsimp only
  rw [if_neg (by simp [used])]
  cases lowest :
      Signals.lowestSignal
        (state.pending &&& (state.signalFds fd.id).mask) with
  | none => exact (pending (Signals.lowestSignal_eq_none.mp lowest)).elim
  | some signum =>
      dsimp only
      rw [Prog.modify_bind_apply, if_neg (by omega), copyUserOut_eq,
        length_signalInfo, if_pos (maps 0 128 (by omega))]
      rfl

theorem ttyRead_error?_iff
    (room : 128 ≤ count) :
    (ttyRead world fd state).error? = none ↔
      ¬ (fd.flags &&& Syscall.oNonblock ≠ 0 ∧ world.serialReady = false) ∧
        ∀ after, readByte state = .ok 0 after → interrupts after = false := by
  by_cases waits :
      fd.flags &&& Syscall.oNonblock ≠ 0 ∧ world.serialReady = false
  · unfold ttyRead
    rw [if_pos waits]
    constructor
    · intro isNone
      cases isNone
    · exact fun ready => (ready.1 waits).elim
  · cases result : readByte state with
    | hang =>
        unfold ttyRead
        rw [if_neg waits, Prog.bind_of_hang result]
        constructor
        · intro _
          refine ⟨waits, ?_⟩
          intro after never
          cases never
        · intro _
          rfl
    | err error after =>
        exact
          ((takes_readByte (keptByInput_raw _) state
            (Nat.le_refl _)).2 _ _ result).elim
    | ok byte after =>
        rw [ttyRead_of_readByte waits result]
        by_cases zero : byte = 0
        · subst zero
          rw [if_pos rfl, Prog.bind_of_ok (signalPendingUnblocked_eq after)]
          cases signalled : interrupts after with
          | true =>
              rw [if_pos rfl]
              constructor
              · intro isNone
                cases isNone
              · intro quiet
                rw [quiet.2 after rfl] at signalled
                cases signalled
          | false =>
              rw [if_neg Bool.false_ne_true]
              constructor
              · intro _
                refine ⟨waits, ?_⟩
                intro other same
                cases same
                exact signalled
              · intro _
                rfl
        · rw [if_neg zero, if_pos (maps 0 1 (by omega))]
          constructor
          · intro _
            refine ⟨waits, ?_⟩
            intro other same
            cases same
            exact (zero rfl).elim
          · intro _
            rfl

theorem fixedRead_error?_iff
    (contents : Option (List UInt8)) :
    (fixedRead world fdNumber fd contents count state).error? = none ↔
      contents.isSome = true := by
  cases contents with
  | none =>
      constructor
      · intro isNone
        cases isNone
      · intro isSome
        cases isSome
  | some data =>
      have fits :
          ((data.drop (min fd.position.toNat data.length)).take count).length ≤
            count :=
        List.length_take_le _ _
      unfold fixedRead
      dsimp only
      rw [if_pos (.inr (maps 0 _ (by omega)))]
      exact ⟨fun _ => rfl, fun _ => rfl⟩

theorem blockReadLoop_error?
    (fuel : Nat)
    (cursor : UInt64)
    (written : List UInt8)
    (within : written.length ≤ count) :
    (blockReadLoop world count fuel cursor written state).error? = none := by
  induction fuel generalizing cursor written with
  | zero =>
      rfl
  | succ fuel inductionHypothesis =>
      unfold blockReadLoop
      by_cases more : written.length < count
      · rw [if_pos more]
        cases world.disk cursor (min 512 (count - written.length)) with
        | none => rfl
        | some data =>
            have copies :
                copyUserOut world written.length
                    (window data 0 (min 512 (count - written.length))) state =
                  .ok () state := by
              unfold copyUserOut
              rw [length_window, if_pos (maps _ _ (by omega))]
              rfl
            refine (congrArg Outcome.error? (Prog.bind_of_ok copies)).trans ?_
            apply inductionHypothesis
            rw [List.length_append, length_window]
            omega
      · rw [if_neg more]
        rfl

theorem blockRead_error? :
    (blockRead world fdNumber fd count state).error? = none := by
  have noError :=
    @blockReadLoop_error? world state count maps (count + 1) fd.position []
      (Nat.zero_le _)
  unfold blockRead
  cases result :
      blockReadLoop world count (count + 1) fd.position [] state with
  | ok read after => rw [Prog.bind_of_ok result]; rfl
  | err error after =>
      rw [result] at noError
      cases noError
  | hang => rw [Prog.bind_of_hang result]; rfl

theorem ramFileRead_error?_iff
    (isOpen : OpenFd state.fds fdNumber) :
    (ramFileRead world fdNumber count state).error? = none ↔
      (ramFileIndex state (state.fds fdNumber.toNat).path).isSome = true := by
  unfold ramFileRead
  rw [Prog.bind_of_ok (fdSnapshot_of_open isOpen), Prog.gets_bind_apply, id]
  cases ramFileIndex state (state.fds fdNumber.toNat).path with
  | none =>
      constructor
      · intro isNone
        cases isNone
      · intro isSome
        cases isSome
  | some index =>
      dsimp only
      refine ⟨fun _ => rfl, fun _ => ?_⟩
      split
      · rfl
      · rw [chunksCopied_of_maps maps (by decide) (Nat.min_le_left _ _),
          if_neg (Nat.lt_irrefl _)]
        rfl

theorem pipeReadFd_error?_iff
    {available : Nat}
    (isOpen : OpenFd state.fds fdNumber)
    (something : count ≠ 0)
    (isRead : (state.fds fdNumber.toNat).kind = .pipeRead)
    (found :
      pipeAvailable state (state.fds fdNumber.toNat).id = some available)
    (positive : 0 < available) :
    (pipeReadFd world fdNumber count state).error? = none ↔
      (state.fds fdNumber.toNat).path.length = 1 := by
  unfold pipeReadFd
  rw [if_neg something, Prog.bind_of_ok (fdSnapshot_of_open isOpen)]
  by_cases single : (state.fds fdNumber.toNat).path.length = 1
  · rw [if_neg (by simp [isRead, single]), Prog.gets_bind_apply, id, found]
    dsimp only
    rw [if_neg (by omega)]
    unfold copyUserOut
    rw [if_pos (maps 0 _ (by
      rw [Syscall.PipeBuffer.length_peek]
      omega))]
    exact ⟨fun _ => single, fun _ => rfl⟩
  · rw [if_pos (.inr single)]
    constructor
    · intro isNone
      cases isNone
    · intro same
      exact (single same).elim

theorem socketReadFd_error?_iff
    (isOpen : OpenFd state.fds fdNumber)
    (isFd : state.fds fdNumber.toNat = fd) :
    (socketReadFd world fdNumber count state).error? = none ↔
      fd.path.length = 2 ∧
        ∃ slot,
          socketPipeFor state fd.id (fd.path.getD 1 0) false = some slot ∧
            ((state.pipeBuffers slot).len = 0 →
              fd.flags &&& Syscall.oNonblock = 0) := by
  unfold socketReadFd
  rw [Prog.bind_of_ok (fdSnapshot_of_open isOpen), isFd]
  by_cases connected : fd.path.length = 2
  · rw [if_neg (not_not.mpr connected), Prog.gets_bind_apply, id]
    cases found : socketPipeFor state fd.id (fd.path.getD 1 0) false with
    | none =>
        constructor
        · intro isNone
          cases isNone
        · rintro ⟨_, slot, isSlot, _⟩
          cases isSlot
    | some slot =>
        dsimp only
        by_cases empty : (state.pipeBuffers slot).len = 0
        · rw [if_pos empty]
          by_cases waits : fd.flags &&& Syscall.oNonblock = 0
          · rw [if_neg (not_not.mpr waits)]
            exact ⟨fun _ => ⟨connected, slot, rfl, fun _ => waits⟩, fun _ => rfl⟩
          · rw [if_pos waits]
            constructor
            · intro isNone
              cases isNone
            · rintro ⟨_, other, same, ready⟩
              cases same
              exact (waits (ready empty)).elim
        · rw [if_neg empty]
          unfold copyUserOut
          rw [if_pos (maps 0 _ (by
            rw [Syscall.PipeBuffer.length_peek]
            omega))]
          exact
            ⟨fun _ => ⟨connected, slot, rfl, fun none => (empty none).elim⟩,
              fun _ => rfl⟩
  · rw [if_pos connected]
    constructor
    · intro isNone
      cases isNone
    · intro ready
      exact (connected ready.1).elim

end

theorem readFd_of_open
    (isOpen : OpenFd state.fds fdNumber)
    (something : count ≠ 0) :
    readFd world fdNumber count state =
      if fdReadable (state.fds fdNumber.toNat) = false then
        .err .ebadf state
      else
        readKind world fdNumber (state.fds fdNumber.toNat) count state := by
  have inside : ¬ (fdNumber < 0 ∨ fdNumber ≥ Syscall.fileFdMax) := by
    obtain ⟨nonnegative, inTable, _⟩ := isOpen
    omega
  unfold readFd
  rw [if_neg inside, if_neg something,
    Prog.bind_of_ok (fdSnapshot_of_open isOpen)]
  split <;> rfl

/-- What is reported readable can be read exactly when nothing else fails. -/
theorem readFd_error?_iff
    {keyboardReady : Bool}
    (maps : world.Maps count)
    (room : 128 ≤ count)
    (isOpen : OpenFd state.fds fdNumber)
    (reported :
      SaysIn world keyboardReady state (state.fds fdNumber.toNat) events) :
    (readFd world fdNumber count state).error? = none ↔
      ReadsFine world state (state.fds fdNumber.toNat) := by
  have something : count ≠ 0 := by omega
  obtain ⟨_, reported⟩ := reported
  rw [readFd_of_open isOpen something]
  unfold ReadsFine
  by_cases readable : fdReadable (state.fds fdNumber.toNat) = true
  · rw [if_neg (by simp [readable])]
    unfold readKind
    cases kind : (state.fds fdNumber.toNat).kind with
    | pipeRead =>
        rw [kind] at reported
        obtain ⟨available, found, positive⟩ := reported
        simp only [readable, true_and]
        exact pipeReadFd_error?_iff maps isOpen something kind found positive
    | eventFd =>
        rw [kind] at reported
        obtain ⟨inTable, used, counts⟩ := reported
        simp only [readable, and_true, iff_true]
        exact eventFdRead_error? maps room inTable used counts
    | timerFd =>
        rw [kind] at reported
        obtain ⟨inTable, used, armed, expired⟩ := reported
        simp only [readable, and_true, iff_true]
        exact timerFdRead_error? maps room inTable used armed expired
    | signalFd =>
        rw [kind] at reported
        obtain ⟨inTable, used, pending⟩ := reported
        simp only [readable, and_true, iff_true]
        exact signalFdRead_error? maps room inTable used pending
    | socket =>
        simp only [readable, true_and]
        exact socketReadFd_error?_iff maps isOpen rfl
    | ramFile =>
        simp only [readable, true_and]
        exact ramFileRead_error?_iff maps isOpen
    | tty =>
        simp only [readable, true_and]
        exact ttyRead_error?_iff maps room
    | zero =>
        have copies :
            copyUserOut world 0 (List.replicate (min count 512) 0) state =
              .ok () state := by
          unfold copyUserOut
          rw [List.length_replicate, if_pos (maps _ _ (by omega))]
          rfl
        simp only [readable, and_true, iff_true]
        exact congrArg Outcome.error? (Prog.bind_of_ok copies)
    | null =>
        simp only [readable, and_true, iff_true]
        rfl
    | binary =>
        simp only [readable, true_and]
        rw [← Option.isSome_map]
        exact fixedRead_error?_iff maps _
    | text =>
        simp only [readable, true_and]
        exact fixedRead_error?_iff maps _
    | block =>
        simp only [readable, and_true, iff_true]
        exact blockRead_error? maps
    | pipeWrite =>
        rw [kind] at reported
        exact reported.elim
    | none | epoll | inotify =>
        constructor
        · intro isNone
          cases isNone
        · intro fine
          exact fine.2.elim
  · rw [if_pos (by simpa using readable)]
    constructor
    · intro isNone
      cases isNone
    · intro fine
      exact (readable fine.1).elim

end Reads

/-! ## Writes of eight mapped bytes -/

/-- A write that neither has to wait nor finds a bad descriptor. -/
def GoesThrough
    (world : World)
    (state : State)
    (fd : Fd)
    (program : Sys Nat) : Prop :=
  ∀ error,
    (program state).error? = some error →
    error ≠ .ebadf ∧
      (error = .eagain → Overflows state fd (getU64 world.source 0))

section Writes

variable
  {world : World}
  {state : State}
  {fdNumber : Int}
  {fd : Fd}

theorem GoesThrough.of_ok
    {amount : Nat}
    (returned : program state = .ok amount final) :
    GoesThrough world state fd program := by
  intro error isError
  rw [returned] at isError
  cases isError

theorem GoesThrough.of_err
    {error : Errno}
    (failed : program state = .err error final)
    (other : error ≠ .ebadf ∧ error ≠ .eagain) :
    GoesThrough world state fd program := by
  intro error isError
  rw [failed] at isError
  cases isError
  exact ⟨other.1, fun waits => (other.2 waits).elim⟩

theorem not_goesThrough_ebadf
    (failed : program state = .err .ebadf final) :
    ¬ GoesThrough world state fd program := by
  intro goes
  exact (goes .ebadf (by rw [failed]; rfl)).1 rfl

section

variable
  (maps : world.Maps 8)
  (isOpen : OpenFd state.fds fdNumber)

include maps isOpen

theorem pipeWriteFd_goesThrough_iff
    {available : Nat}
    (isWrite : (state.fds fdNumber.toNat).kind = .pipeWrite)
    (found :
      pipeAvailable state (state.fds fdNumber.toNat).id = some available)
    (room : available < Syscall.pipeCapacity) :
    GoesThrough world state fd (pipeWriteFd world fdNumber 8) ↔
      (state.fds fdNumber.toNat).path.length = 1 := by
  by_cases single : (state.fds fdNumber.toNat).path.length = 1
  · simp only [single, iff_true]
    have start :
        pipeWriteFd world fdNumber 8 state =
          (if pipeHasReader state (state.fds fdNumber.toNat).id = false then
              Prog.fail .epipe
            else if Syscall.pipeCapacity - available = 0 then
              Prog.fail .eagain
            else
              copyUserIn world 0 (min 8 (Syscall.pipeCapacity - available)) >>=
                fun _ =>
                  Prog.modify
                      (State.putPipe (state.fds fdNumber.toNat).id world.source
                        (min 8 (Syscall.pipeCapacity - available))) >>=
                    fun _ => pure (min 8 (Syscall.pipeCapacity - available)) :
            Sys Nat) state := by
      unfold pipeWriteFd
      rw [Prog.bind_of_ok (fdSnapshot_of_open isOpen),
        if_neg (by simp [isWrite, single]), Prog.gets_bind_apply, id, found]
    by_cases noReader :
        pipeHasReader state (state.fds fdNumber.toNat).id = false
    · rw [if_pos noReader] at start
      exact .of_err start (by decide)
    · rw [if_neg noReader, if_neg (by omega)] at start
      have copies :
          copyUserIn world 0 (min 8 (Syscall.pipeCapacity - available)) state =
            .ok
              (window world.source 0
                (min 8 (Syscall.pipeCapacity - available)))
              state := by
        unfold copyUserIn
        rw [if_pos (maps _ _ (by omega))]
        rfl
      rw [Prog.bind_of_ok copies] at start
      exact .of_ok start
  · simp only [single, iff_false]
    apply not_goesThrough_ebadf
    · unfold pipeWriteFd
      rw [Prog.bind_of_ok (fdSnapshot_of_open isOpen), if_pos (.inr single)]
      rfl

/-- Without a connection a write fails, but not for want of room. -/
theorem socketWriteFd_goesThrough_iff
    (isFd : state.fds fdNumber.toNat = fd)
    (isSocket : fd.kind = .socket) :
    GoesThrough world state fd (socketWriteFd world fdNumber 8) ↔
      (fd.path.length = 2 →
        ∀ slot,
          socketPipeFor state fd.id (fd.path.getD 1 0) true = some slot →
          (state.pipeBuffers slot).len < Syscall.pipeCapacity) := by
  have noOverflow : ∀ value, ¬ Overflows state fd value := by
    rintro value ⟨isEvent, _⟩
    rw [isSocket] at isEvent
    cases isEvent
  by_cases connected : fd.path.length = 2
  · have start :
        socketWriteFd world fdNumber 8 state =
          (match socketPipeFor state fd.id (fd.path.getD 1 0) true with
            | none => Prog.fail .enotconn
            | some slot =>
                if Syscall.pipeCapacity - (state.pipeBuffers slot).len = 0 then
                  Prog.fail .eagain
                else do
                  let _ ←
                    copyUserIn world 0
                      (min 8
                        (Syscall.pipeCapacity - (state.pipeBuffers slot).len))
                  Prog.modify
                    (State.putPipe slot world.source
                      (min 8
                        (Syscall.pipeCapacity - (state.pipeBuffers slot).len)))
                  pure
                    (min 8
                      (Syscall.pipeCapacity - (state.pipeBuffers slot).len)) :
            Sys Nat) state := by
      unfold socketWriteFd
      rw [Prog.bind_of_ok (fdSnapshot_of_open isOpen), isFd,
        if_neg (not_not.mpr connected)]
      exact Prog.gets_bind_apply _ _ _
    cases found : socketPipeFor state fd.id (fd.path.getD 1 0) true with
    | none =>
        rw [found] at start
        constructor
        · intro _ _ slot isSlot
          cases isSlot
        · intro _
          exact .of_err start (by decide)
    | some slot =>
        rw [found] at start
        by_cases room : (state.pipeBuffers slot).len < Syscall.pipeCapacity
        · constructor
          · intro _ _ other same
            cases same
            exact room
          · intro _
            have copies :
                copyUserIn world 0
                    (min 8
                      (Syscall.pipeCapacity - (state.pipeBuffers slot).len))
                    state =
                  .ok
                    (window world.source 0
                      (min 8
                        (Syscall.pipeCapacity - (state.pipeBuffers slot).len)))
                    state := by
              unfold copyUserIn
              rw [if_pos (maps _ _ (by omega))]
              rfl
            dsimp only at start
            rw [if_neg (by omega), Prog.bind_of_ok copies] at start
            exact .of_ok start
        · dsimp only at start
          rw [if_pos (by omega)] at start
          constructor
          · intro goes
            have waits := (goes .eagain (by rw [start]; rfl)).2 rfl
            exact (noOverflow _ waits).elim
          · intro hasRoom
            exact (room (hasRoom connected slot rfl)).elim
  · have fails :
        socketWriteFd world fdNumber 8 state = .err .enotconn state := by
      unfold socketWriteFd
      rw [Prog.bind_of_ok (fdSnapshot_of_open isOpen), isFd, if_pos connected]
      rfl
    constructor
    · intro _ isConnected
      exact (connected isConnected).elim
    · intro _
      exact .of_err fails (by decide)

theorem ramFileWrite_goesThrough :
    GoesThrough world state fd (ramFileWrite world fdNumber 8) := by
  intro error isError
  unfold ramFileWrite at isError
  rw [Prog.bind_of_ok (fdSnapshot_of_open isOpen), Prog.gets_bind_apply, id]
    at isError
  cases found : ramFileIndex state (state.fds fdNumber.toNat).path with
  | none =>
      rw [found] at isError
      cases isError
      exact ⟨by decide, fun same => by cases same⟩
  | some index =>
      rw [found] at isError
      dsimp only at isError
      generalize
        (if (state.fds fdNumber.toNat).flags &&& oAppend ≠ 0 then
            (state.ramFiles index).len
          else
            (state.fds fdNumber.toNat).position.toNat) =
          position at isError
      split at isError
      · cases isError
        exact ⟨by decide, fun same => by cases same⟩
      · split at isError
        · cases isError
        · rw [chunksCopied_of_maps maps (by decide) (Nat.min_le_left _ _),
            if_neg (Nat.lt_irrefl _)] at isError
          cases isError

end

theorem eventFdWrite_goesThrough_iff
    (maps : world.Maps 8)
    (isEvent : fd.kind = .eventFd)
    (inTable : fd.id < eventfdMax) :
    GoesThrough world state fd (eventFdWrite world fd 8) ↔
      (state.eventFds fd.id).used = true := by
  cases used : (state.eventFds fd.id).used with
  | false =>
      simp only [Bool.false_eq_true, iff_false]
      apply not_goesThrough_ebadf
      · unfold eventFdWrite
        rw [if_neg (Nat.not_le.mpr inTable), Prog.gets_bind_apply, if_pos used]
        rfl
  | true =>
      simp only [iff_true]
      intro error isError
      have copies :
          copyUserIn world 0 8 state = .ok (window world.source 0 8) state := by
        unfold copyUserIn
        rw [if_pos (maps _ _ (by omega))]
        rfl
      unfold eventFdWrite at isError
      rw [if_neg (Nat.not_le.mpr inTable), Prog.gets_bind_apply,
        if_neg (by simp [used]), if_neg (by decide), Prog.bind_of_ok copies]
        at isError
      split at isError
      · cases isError
        exact ⟨by decide, fun same => by cases same⟩
      · split at isError
        case isTrue overflows =>
          cases isError
          exact ⟨by decide, fun _ => ⟨isEvent, overflows⟩⟩
        case isFalse =>
          cases isError

theorem ttyWrite_goesThrough
    (maps : world.Maps 8) :
    GoesThrough world state fd (ttyWrite world 8) := by
  unfold ttyWrite
  rw [chunksCopied_of_maps maps (by decide) (Nat.le_refl _)]
  exact .of_ok rfl

theorem writeFd_of_open
    {count : Nat}
    (isOpen : OpenFd state.fds fdNumber)
    (something : count ≠ 0) :
    writeFd world fdNumber count state =
      if fdWritable (state.fds fdNumber.toNat) = false ∧
          (state.fds fdNumber.toNat).kind ≠ .tty then
        .err .ebadf state
      else
        writeKind world fdNumber (state.fds fdNumber.toNat) count state := by
  have inside : ¬ (fdNumber < 0 ∨ fdNumber ≥ Syscall.fileFdMax) := by
    obtain ⟨nonnegative, inTable, _⟩ := isOpen
    omega
  unfold writeFd
  rw [if_neg inside, if_neg something,
    Prog.bind_of_ok (fdSnapshot_of_open isOpen)]
  split <;> rfl

/-- What is reported writable can be written exactly when nothing else fails. -/
theorem writeFd_goesThrough_iff
    (maps : world.Maps 8)
    (isOpen : OpenFd state.fds fdNumber)
    (reported : SaysOut state (state.fds fdNumber.toNat) events) :
    GoesThrough world state (state.fds fdNumber.toNat)
        (writeFd world fdNumber 8) ↔
      WritesFine state (state.fds fdNumber.toNat) := by
  obtain ⟨_, reported⟩ := reported
  have opened := @writeFd_of_open world state fdNumber 8 isOpen (by decide)
  unfold WritesFine
  by_cases refused :
      fdWritable (state.fds fdNumber.toNat) = false ∧
        (state.fds fdNumber.toNat).kind ≠ .tty
  · rw [if_pos refused] at opened
    constructor
    · intro goes
      exact (not_goesThrough_ebadf opened goes).elim
    · rintro ⟨writable | isTty, _⟩
      · rw [refused.1] at writable
        cases writable
      · exact (refused.2 isTty).elim
  · rw [if_neg refused] at opened
    have writable :
        fdWritable (state.fds fdNumber.toNat) = true ∨
          (state.fds fdNumber.toNat).kind = .tty := by
      by_cases isTty : (state.fds fdNumber.toNat).kind = .tty
      · exact .inr isTty
      · left
        by_contra notWritable
        exact refused ⟨by simpa using notWritable, isTty⟩
    have sameRun :
        GoesThrough world state (state.fds fdNumber.toNat)
            (writeFd world fdNumber 8) ↔
          GoesThrough world state (state.fds fdNumber.toNat)
            (writeKind world fdNumber (state.fds fdNumber.toNat) 8) := by
      unfold GoesThrough
      rw [opened]
    rw [sameRun]
    unfold writeKind
    cases kind : (state.fds fdNumber.toNat).kind with
    | pipeWrite =>
        rw [kind] at reported writable
        obtain ⟨available, found, room⟩ := reported
        simp only [writable, true_and]
        exact pipeWriteFd_goesThrough_iff maps isOpen kind found room
    | socket =>
        rw [kind] at writable
        simp only [writable, true_and]
        exact socketWriteFd_goesThrough_iff maps isOpen rfl kind
    | ramFile =>
        rw [kind] at writable
        simp only [writable, and_true, iff_true]
        exact ramFileWrite_goesThrough maps isOpen
    | eventFd =>
        rw [kind] at writable reported
        simp only [writable, true_and]
        exact eventFdWrite_goesThrough_iff maps kind reported
    | tty =>
        simp only [or_true, and_true, iff_true]
        exact ttyWrite_goesThrough maps
    | null =>
        rw [kind] at writable
        simp only [writable, and_true, iff_true]
        exact .of_ok rfl
    | binary | text =>
        rw [kind] at writable
        simp only [writable, and_true, iff_true]
        exact .of_err rfl (by decide)
    | none | zero | pipeRead | timerFd | signalFd | epoll | inotify | block =>
        simp only [and_false, iff_false]
        exact not_goesThrough_ebadf rfl

end Writes

/-! ## Honest reports -/

theorem pollFdRevents_of_open
    {world : World}
    {keyboardReady : Bool}
    {fdNumber : Int}
    (isOpen : OpenFd state.fds fdNumber) :
    pollFdRevents world keyboardReady fdNumber events state =
      pollKind world keyboardReady (state.fds fdNumber.toNat) events state := by
  unfold pollFdRevents
  rw [Prog.bind_of_ok (Prog.attempt_of_ok (fdSnapshot_of_open isOpen))]

theorem World.withBuffer_maps
    (world : World)
    (source : Nat → UInt8)
    (count : Nat) :
    (world.withBuffer (fun _ _ => true) source).Maps count :=
  fun _ _ _ => rfl

/--
What is reported for an open descriptor is what the next transfer finds exactly
when the read that `POLLIN` promises, and the write that `POLLOUT` promises,
have what `poll` does not look at.
-/
theorem poll_honest_iff
    {world : World}
    {keyboardReady : Bool}
    {state : State}
    {fdNumber : Int}
    {events : UInt16}
    (isOpen : OpenFd state.fds fdNumber) :
    (∀ revents final,
        pollFdRevents world keyboardReady fdNumber events state =
            .ok revents final →
          Honest world state fdNumber revents) ↔
      (SaysIn world keyboardReady state (state.fds fdNumber.toNat) events →
          ReadsFine world state (state.fds fdNumber.toNat)) ∧
        (SaysOut state (state.fds fdNumber.toNat) events →
          WritesFine state (state.fds fdNumber.toNat)) := by
  rw [pollFdRevents_of_open isOpen]
  constructor
  · intro honest
    constructor
    · intro reported
      obtain ⟨revents, final, returned, isIn⟩ :=
        pollIn_reported_iff.mpr reported
      have reads :=
        (honest revents final returned).reads isIn (fun _ _ => true)
          (fun _ => 0) 128 (Nat.le_refl _) (world.withBuffer_maps _ _)
      exact
        (readFd_error?_iff (world.withBuffer_maps _ _) (Nat.le_refl _) isOpen
          reported).mp reads
    · intro reported
      obtain ⟨revents, final, returned, isOut⟩ :=
        pollOut_reported_iff.mpr reported
      have writes :
          GoesThrough (world.withBuffer (fun _ _ => true) fun _ => 0) state
            (state.fds fdNumber.toNat)
            (writeFd (world.withBuffer (fun _ _ => true) fun _ => 0) fdNumber
              8) :=
        fun error isError =>
          (honest revents final returned).writes isOut _ _ error
            (world.withBuffer_maps _ _) isError
      exact
        (writeFd_goesThrough_iff (world.withBuffer_maps _ _) isOpen
          reported).mp writes
  · rintro ⟨readsFine, writesFine⟩ revents final returned
    constructor
    · intro isIn copied source count room maps
      have reported :=
        pollIn_reported_iff.mp ⟨revents, final, returned, isIn⟩
      exact
        (readFd_error?_iff maps room
          isOpen reported).mpr (readsFine reported)
    · intro isOut copied source error maps isError
      have reported :=
        pollOut_reported_iff.mp ⟨revents, final, returned, isOut⟩
      exact
        (writeFd_goesThrough_iff maps isOpen reported).mpr
          (writesFine reported) error isError

/-- A fresh process that has opened `/dev/null` as descriptor 3. -/
def nullState (flags : UInt64) : State :=
  (openPath World.idle (bytes "/dev/null") flags State.new).final?.getD
    State.new

/-- Both directions are open, and both are reported. -/
theorem poll_honest_null :
    ∃ revents final,
      pollFdRevents World.idle false 3 0x45 (nullState 2) =
          .ok revents final ∧
        Honest World.idle (nullState 2) 3 revents :=
  ⟨_, _, rfl,
    (@poll_honest_iff World.idle false (nullState 2) 3 0x45
        ⟨by decide, by decide, rfl⟩).mpr
      ⟨fun _ => ⟨by decide, trivial⟩, fun _ => ⟨.inl (by decide), trivial⟩⟩
      _ _ rfl⟩

/-- What is open for writing only is reported readable, and is not. -/
theorem poll_dishonest_null :
    OpenFd (nullState 1).fds 3 ∧
      ∃ revents final,
        pollFdRevents World.idle false 3 1 (nullState 1) =
            .ok revents final ∧
          ¬ Honest World.idle (nullState 1) 3 revents := by
  refine
    ⟨⟨by decide, by decide, rfl⟩, pollReads, nullState 1, rfl, ?_⟩
  intro honest
  have reads :=
    honest.reads (by decide) (fun _ _ => true) (fun _ => 0) 128
      (Nat.le_refl _) (World.idle.withBuffer_maps _ _)
  have refused :
      (readFd (World.idle.withBuffer (fun _ _ => true) fun _ => 0) 3 128
          (nullState 1)).error? =
        some .ebadf :=
    rfl
  rw [refused] at reads
  cases reads

end VibuxOS.Files
