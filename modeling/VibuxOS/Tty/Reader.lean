import VibuxOS.Tty.Terminal

namespace VibuxOS.Tty

open VibuxOS.Lib VibuxOS.Files

/-!
# `read_byte` and the interrupts between its steps

`read_byte` is a loop over the statics that the keyboard interrupt changes too.
Each of its accesses is one step here, so that an interrupt can arrive between
any two of them.  The rest of the kernel may change the process and its pending
signals at any moment; the line flags stay as they are.
-/

/-- Where `read_byte` is, with what it holds. -/
inductive Reader where
  /-- No call is under way. -/
  | idle
  /-- The first look at the pending signals. -/
  | check
  /-- `pop_input`, at the top of the loop -/
  | look
  /-- `serial_read_byte` -/
  | serial
  /-- `pop_keyboard_scancode` -/
  | scancode
  /-- `keyboard_ascii` of a scancode -/
  | translate (scancode : UInt8)
  /-- `process_input_byte` of a byte -/
  | process (raw : UInt8)
  /-- The loop of `flush_line` from `index` to `stop`. -/
  | flush (index stop : Nat)
  /-- `push_input(b'\n')` -/
  | newline
  /-- `LINE_LEN = 0`, behind the newline -/
  | clear
  /-- `pop_input`, at the end of `process_input_byte` -/
  | flushed
  /-- `pop_input`, after `process_input_byte` -/
  | again
  /-- The second look at the pending signals. -/
  | recheck
  /-- `hlt` -/
  | halt
  deriving Repr, DecidableEq

/--
The terminal, its reader, and a record of the run: the bytes that calls of
`read_byte` returned, other than the zero of an interrupted call, and the bytes
that `process_input_byte` was given.
-/
structure System where
  terminal : Terminal
  reader : Reader
  returned : List UInt8
  processed : List UInt8

namespace System

/-- Go on elsewhere. -/
def goto (system : System) (reader : Reader) : System :=
  { system with reader := reader }

/-- The call returns a byte. -/
def give (system : System) (byte : UInt8) : System :=
  { system with
    reader := .idle
    returned := system.returned ++ [byte] }

/-- Change the terminal. -/
def onTerminal
    (change : Terminal → Terminal)
    (system : System) :
    System :=
  { system with terminal := change system.terminal }

/-- A look at the pending signals, which ends the call or leads on. -/
def check (system : System) (next : Reader) : System :=
  let (found, terminal) := signalPendingUnblocked system.terminal
  { system with
    terminal := terminal
    reader := if found then .idle else next }

/-- `pop_input`, which ends the call or leads on. -/
def popInput (system : System) (next : Reader) : System :=
  match system.terminal.input.pop with
  | some (byte, rest) =>
      (system.onTerminal fun terminal =>
        { terminal with input := rest }).give byte
  | none => system.goto next

def serialReadByte (system : System) : System :=
  match system.terminal.serial with
  | byte :: rest =>
      (system.onTerminal fun terminal =>
        { terminal with serial := rest }).goto (.process byte)
  | [] => system.goto .scancode

/-- `pop_keyboard_scancode` -/
def popScancode (system : System) : System :=
  match system.terminal.scancodes.pop with
  | some (scancode, rest) =>
      (system.onTerminal fun terminal =>
        { terminal with scancodes := rest }).goto (.translate scancode)
  | none => system.goto .recheck

/-- `keyboard_ascii` on a scancode that was queued -/
def translate (system : System) (scancode : UInt8) : System :=
  let (modifiers, byte) := keyboardAscii system.terminal.modifiers scancode
  (system.onTerminal fun terminal =>
    { terminal with modifiers := modifiers }).goto
      (match byte with
      | some raw => .process raw
      | none => .recheck)

/-- `process_input_byte`, up to `flush_line` -/
def processInputByte (system : System) (raw : UInt8) : System :=
  let lflag := system.terminal.lflag
  match
    if signalling lflag then
      interruptSignal raw
    else
      none
  with
  | some signum =>
      (system.onTerminal fun terminal =>
        terminal.dropLine.raiseSignal signum).goto .again
  | none =>
      if canonical lflag = false then
        system.give raw
      else if raw = 0x08 ∨ raw = 0x7f then
        (system.onTerminal Terminal.erase).goto .again
      else if raw = 0x04 then
        if system.terminal.lineLen = 0 then
          system.give 0
        else
          system.goto (.flush 0 system.terminal.lineLen)
      else if raw = 0x0d ∨ raw = 0x0a then
        system.goto (.flush 0 system.terminal.lineLen)
      else
        (system.onTerminal fun terminal => terminal.keep raw).goto .again

/-- A turn of the loop of `flush_line` -/
def flushStep (system : System) (index stop : Nat) : System :=
  if index < stop then
    (system.onTerminal fun terminal =>
      terminal.pushInput (terminal.line index)).goto (.flush (index + 1) stop)
  else
    system.goto .newline

/-- The next step of `read_byte`. -/
def readerStep (system : System) : System :=
  match system.reader with
  | .idle => system
  | .check => system.check .look
  | .look => system.popInput .serial
  | .serial => system.serialReadByte
  | .scancode => system.popScancode
  | .translate scancode => system.translate scancode
  | .process raw =>
      processInputByte { system with processed := system.processed ++ [raw] }
        raw
  | .flush index stop => system.flushStep index stop
  | .newline =>
      (system.onTerminal fun terminal => terminal.pushInput 10).goto .clear
  | .clear => (system.onTerminal Terminal.dropLine).goto .flushed
  | .flushed => system.popInput .again
  | .again => system.popInput .check
  | .recheck => system.check .halt
  | .halt => system.goto .check

end System

/-- What can happen next. -/
inductive Event where
  /-- The keyboard interrupt reads a scancode. -/
  | key (scancode : UInt8)
  /-- A byte arrives at the serial port. -/
  | serial (byte : UInt8)
  /-- The kernel calls `read_byte`. -/
  | call
  /-- `read_byte` takes a step. -/
  | reader
  /-- The rest of the kernel changes the process and its pending signals. -/
  | kernel (process : Signals.ProcessState) (pending : UInt64)

def System.step (system : System) : Event → System
  | .key scancode =>
      system.onTerminal fun terminal => keyboardInterrupt terminal scancode
  | .serial byte =>
      system.onTerminal fun terminal =>
        { terminal with serial := terminal.serial ++ [byte] }
  | .call =>
      match system.reader with
      | .idle => system.goto .check
      | _ => system
  | .reader => system.readerStep
  | .kernel process pending =>
      system.onTerminal fun terminal =>
        { terminal with process := process, pending := pending }

theorem System.step_key
    (system : System)
    (scancode : UInt8) :
    system.step (.key scancode) =
      { system with
        terminal := keyboardInterrupt system.terminal scancode } :=
  rfl

/-- A run: its events, one after the other. -/
def System.run (system : System) (events : List Event) : System :=
  events.foldl System.step system

/-- The scancodes of a run. -/
def keysOf (events : List Event) : List UInt8 :=
  events.filterMap fun event =>
    match event with
    | .key scancode => some scancode
    | _ => none

/-- Every event of a run meets a condition on the state before it. -/
def Along
    (meets : System → Event → Prop) :
    System →
    List Event →
    Prop
  | _, [] => True
  | system, event :: rest =>
      meets system event ∧ Along meets (system.step event) rest

theorem Along.invariant
    {meets : System → Event → Prop}
    {holds : System → Prop}
    (step :
      ∀ (system : System) (event : Event),
        meets system event →
        holds system →
        holds (system.step event))
    {system : System}
    {events : List Event}
    (along : Along meets system events)
    (start : holds system) :
    holds (system.run events) := by
  induction events generalizing system with
  | nil =>
      exact start
  | cons event rest inductionHypothesis =>
      obtain ⟨now, later⟩ := along
      exact inductionHypothesis later (step system event now start)

theorem Along.mono
    {meets implied : System → Event → Prop}
    (implies :
      ∀ (system : System) (event : Event),
        meets system event → implied system event)
    {system : System}
    {events : List Event}
    (along : Along meets system events) :
    Along implied system events := by
  induction events generalizing system with
  | nil =>
      trivial
  | cons event rest inductionHypothesis =>
      exact ⟨implies system event along.1, inductionHypothesis along.2⟩

theorem Along.and
    {left right : System → Event → Prop}
    {system : System}
    {events : List Event}
    (leftAlong : Along left system events)
    (rightAlong : Along right system events) :
    Along (fun system event => left system event ∧ right system event)
      system events := by
  induction events generalizing system with
  | nil =>
      trivial
  | cons event rest inductionHypothesis =>
      exact ⟨⟨leftAlong.1, rightAlong.1⟩,
        inductionHypothesis leftAlong.2 rightAlong.2⟩

end VibuxOS.Tty
