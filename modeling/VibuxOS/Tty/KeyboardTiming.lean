import VibuxOS.Tty.CanonicalLines

namespace VibuxOS.Tty

open VibuxOS.Lib VibuxOS.Files

/-!
# Keyboard input and the time of its reading

A scancode is translated with the modifiers as they are when `read_byte` takes
it from its queue, a control key acts when it arrives, and without line editing
a translated byte is returned ahead of whatever a control key has put into the
input queue.  A run in which none of this matters, because no interrupt changes
what waits and none overtakes a byte, returns what it would return if every
scancode were read at once.
-/

variable
  {code : UInt8}
  {modifiers : Modifiers}
  {scancode : UInt8}
  {system : System}

/-! ## Keys that are read as soon as they arrive -/

/-- What was typed: the open line, all bytes of input, the signals raised. -/
structure Typed where
  line : List UInt8
  out : List UInt8
  raised : List UInt64
  deriving Repr, DecidableEq

namespace Typed

/-- The line is finished. -/
def flush (typed : Typed) : Typed :=
  { typed with
    line := []
    out := typed.out ++ typed.line ++ [10] }

/-- A byte is put into the input as it is. -/
def put (typed : Typed) (byte : UInt8) : Typed :=
  { typed with out := typed.out ++ [byte] }

/-- The line is dropped and a signal raised. -/
def signal (typed : Typed) (signum : UInt64) : Typed :=
  { typed with
    line := []
    raised := typed.raised ++ [signum] }

/-- What `process_input_byte` makes of a byte. -/
def process (lflag : UInt32) (typed : Typed) (raw : UInt8) : Typed :=
  match
    if signalling lflag then
      interruptSignal raw
    else
      none
  with
  | some signum => typed.signal signum
  | none =>
      if canonical lflag = false then
        typed.put raw
      else if raw = 0x08 ∨ raw = 0x7f then
        { typed with line := typed.line.dropLast }
      else if raw = 0x04 then
        if typed.line = [] then
          typed.put 0
        else
          typed.flush
      else if raw = 0x0d ∨ raw = 0x0a then
        typed.flush
      else if typed.line.length < lineCapacity - 1 then
        { typed with line := typed.line ++ [raw] }
      else
        typed

/-- What a control key does, if the key is one. -/
def control? (lflag : UInt32) (typed : Typed) (code : UInt8) : Option Typed :=
  match controlSignal? code with
  | some (signum, byte) =>
      if signalling lflag then
        some (typed.signal signum)
      else
        some ({ typed with line := [] }.put byte)
  | none =>
      if code = 0x20 then
        if canonical lflag then
          if typed.line = [] then
            some (typed.put 0)
          else
            some typed.flush
        else
          some (typed.put 0x04)
      else if code = 0x26 then
        some (typed.put 0x0c)
      else
        none

end Typed

/-- What was typed, with the modifiers that are held. -/
structure Keyboard where
  modifiers : Modifiers
  typed : Typed
  deriving Repr, DecidableEq

/-- A scancode that is handled, and read, as soon as it arrives. -/
def Keyboard.arrive
    (lflag : UInt32)
    (keyboard : Keyboard)
    (scancode : UInt8) :
    Keyboard :=
  match keyboard.modifiers.handled? scancode with
  | some modifiers => { keyboard with modifiers := modifiers }
  | none =>
      match
        if keyboard.modifiers.ctrl then
          keyboard.typed.control? lflag (keyCode scancode)
        else
          none
      with
      | some typed => { keyboard with typed := typed }
      | none =>
          match (keyboardAscii keyboard.modifiers scancode).2 with
          | some raw =>
              { keyboard with typed := keyboard.typed.process lflag raw }
          | none => keyboard

/-! ## What a system is to return -/

/-- What the line buffer and the input queue hold, behind some bytes. -/
def Terminal.typed (terminal : Terminal) (returned : List UInt8) : Typed where
  line := terminal.kept
  out := returned ++ terminal.input.contents
  raised := terminal.raised

/-- What the buffers and the returned bytes hold. -/
def System.base (system : System) : Typed :=
  system.terminal.typed system.returned

/-- What is left to do of moving a line. -/
def System.settled (system : System) : Typed :=
  match system.reader with
  | .flush index stop =>
      { system.base with
        line := []
        out :=
          system.base.out ++ (system.terminal.kept.take stop).drop index ++
            [10] }
  | .newline =>
      { system.base with
        line := []
        out := system.base.out ++ [10] }
  | .clear => { system.base with line := [] }
  | _ => system.base

/-- The scancodes that are still to be translated, in order. -/
def System.waiting (system : System) : List UInt8 :=
  (match system.reader with
    | .translate scancode => [scancode]
    | _ => []) ++
    system.terminal.scancodes.contents

/-- What the scancodes still to be translated stand for. -/
def bytesOf (modifiers : Modifiers) (scancodes : List UInt8) : List UInt8 :=
  scancodes.filterMap fun scancode => (keyboardAscii modifiers scancode).2

/-- A byte that was translated and not processed. -/
def System.translated (system : System) : List UInt8 :=
  match system.reader with
  | .process raw => [raw]
  | _ => []

/-- The bytes still to be processed, in order. -/
def System.unprocessed (system : System) : List UInt8 :=
  system.translated ++ bytesOf system.terminal.modifiers system.waiting

/-- What everything that has arrived amounts to. -/
def System.keyboard (system : System) : Keyboard where
  modifiers := system.terminal.modifiers
  typed :=
    system.unprocessed.foldl (Typed.process system.terminal.lflag)
      system.settled

/-! ## Runs in which the time of reading does not matter -/

/-- A byte was translated and is not processed to its end. -/
def Reader.processing : Reader → Bool
  | .process _ => true
  | .flush _ _ => true
  | .newline => true
  | .clear => true
  | _ => false

/-- The reader has looked at the input queue and not processed a byte since. -/
def Reader.pastLook : Reader → Bool
  | .serial => true
  | .scancode => true
  | .translate _ => true
  | .process _ => true
  | _ => false

/-- The scancode is left to `read_byte` and types a byte. -/
def Types (terminal : Terminal) (scancode : UInt8) : Prop :=
  handleKeyboardInterrupt terminal scancode = none ∧
    (keyboardAscii terminal.modifiers scancode).2 ≠ none

/--
An interrupt neither changes what a waiting scancode stands for, nor acts while
a byte is being processed, nor queues a byte that could overtake the input.
-/
def Careful (system : System) : Event → Prop
  | .key scancode =>
      bytesOf (keyboardInterrupt system.terminal scancode).modifiers
            system.waiting =
          bytesOf system.terminal.modifiers system.waiting ∧
        (IsControlKey system.terminal scancode →
          system.reader.processing = false) ∧
        (canonical system.terminal.lflag = false →
          Types system.terminal scancode →
          system.reader.pastLook = true →
          system.terminal.input.contents = [])
  | _ => True

/-- All input comes from the keyboard. -/
def FromKeyboard (_ : System) : Event → Prop
  | .serial _ => False
  | _ => True

/-- Neither queue is full after the event. -/
def RoomLeft (system : System) (event : Event) : Prop :=
  (system.step event).terminal.input.length + 1 < inputCapacity ∧
    (system.step event).terminal.scancodes.length + 1 < scancodeQueueSize

/-- Every scancode that arrived before has been handled. -/
def Prompt (system : System) : Event → Prop
  | .key _ =>
      (system.reader = .idle ∨ system.reader = .halt) ∧
        system.terminal.input.contents = [] ∧
        system.terminal.scancodes.contents = []
  | _ => True

/-! ## The terminal's functions on what was typed -/

namespace Terminal

variable
  {terminal : Terminal}
  {returned : List UInt8}

theorem typed_pushInput
    {byte : UInt8}
    (roomLeft :
      (terminal.pushInput byte).input.length + 1 < inputCapacity) :
    (terminal.pushInput byte).typed returned =
      (terminal.typed returned).put byte := by
  have pushed :
      (terminal.pushInput byte).input.contents =
        terminal.input.contents ++ [byte] :=
    RingQueue.contents_push_of_room roomLeft
  simp only [typed, Typed.put, pushed, List.append_assoc]
  rfl

theorem typed_keep
    (terminal : Terminal)
    (byte : UInt8)
    (returned : List UInt8) :
    (terminal.keep byte).typed returned =
      if (terminal.typed returned).line.length < lineCapacity - 1 then
        { terminal.typed returned with
          line := (terminal.typed returned).line ++ [byte] }
      else
        terminal.typed returned := by
  unfold typed
  rw [kept_keep, input_keep, raised_keep]
  split <;> rfl

theorem typed_erase
    (terminal : Terminal)
    (returned : List UInt8) :
    terminal.erase.typed returned =
      { terminal.typed returned with
        line := (terminal.typed returned).line.dropLast } := by
  unfold typed
  rw [kept_erase]
  rfl

theorem foldl_pushInput
    (bytes : List UInt8)
    (terminal : Terminal) :
    bytes.foldl pushInput terminal =
      { terminal with
        input := bytes.foldl RingQueue.push terminal.input } := by
  induction bytes generalizing terminal with
  | nil =>
      rfl
  | cons byte rest inductionHypothesis =>
      rw [List.foldl_cons, List.foldl_cons, inductionHypothesis]
      rfl

theorem flushLine_eq
    (terminal : Terminal) :
    terminal.flushLine =
      ({ terminal with
        input :=
          (terminal.kept ++ [10]).foldl RingQueue.push
            terminal.input } : Terminal).dropLine := by
  unfold flushLine
  rw [foldl_pushInput, List.foldl_append]
  rfl

theorem typed_flushLine
    (roomLeft : terminal.flushLine.input.length + 1 < inputCapacity) :
    terminal.flushLine.typed returned = (terminal.typed returned).flush := by
  rw [flushLine_eq] at roomLeft ⊢
  have pushed :=
    RingQueue.contents_pushes_of_room
      (show
        ((terminal.kept ++ [10]).foldl RingQueue.push
          terminal.input).length + 1 < inputCapacity from roomLeft)
  change
    Typed.mk []
        (returned ++
          ((terminal.kept ++ [10]).foldl RingQueue.push
            terminal.input).contents)
        terminal.raised =
      _
  rw [pushed]
  simp [Typed.flush, typed]

end Terminal

theorem typed_controlKey?
    {terminal after : Terminal}
    (carried : controlKey? terminal code = some after)
    (roomLeft : after.input.length + 1 < inputCapacity)
    (returned : List UInt8) :
    (terminal.typed returned).control? terminal.lflag code =
      some (after.typed returned) := by
  have noLine : terminal.lineLen = 0 ↔ (terminal.typed returned).line = [] := by
    rw [← Terminal.length_kept, List.length_eq_zero_iff]
    rfl
  unfold controlKey? at carried
  unfold Typed.control?
  cases signal : controlSignal? code with
  | some pair =>
      obtain ⟨signum, byte⟩ := pair
      simp only [signal] at carried ⊢
      split at carried
      case isTrue signals =>
        obtain rfl := Option.some.inj carried
        rw [if_pos signals]
        rfl
      case isFalse noSignals =>
        obtain rfl := Option.some.inj carried
        rw [if_neg noSignals, Terminal.typed_pushInput roomLeft]
        rfl
  | none =>
      simp only [signal] at carried ⊢
      by_cases isEof : code = 0x20
      · rw [if_pos isEof] at carried ⊢
        split at carried
        case isTrue edits =>
          rw [if_pos edits]
          split at carried
          case isTrue empty =>
            obtain rfl := Option.some.inj carried
            rw [if_pos (noLine.mp empty), Terminal.typed_pushInput roomLeft]
          case isFalse kept =>
            obtain rfl := Option.some.inj carried
            rw [if_neg fun empty => kept (noLine.mpr empty),
              Terminal.typed_flushLine roomLeft]
        case isFalse raw =>
          obtain rfl := Option.some.inj carried
          rw [if_neg raw, Terminal.typed_pushInput roomLeft]
      · rw [if_neg isEof] at carried ⊢
        split at carried
        case isTrue isFormFeed =>
          obtain rfl := Option.some.inj carried
          rw [if_pos isFormFeed, Terminal.typed_pushInput roomLeft]
        case isFalse =>
          exact absurd carried (by simp)

/-- The same scancode, line flags and devices as in another terminal. -/
structure SameDevices (terminal after : Terminal) : Prop where
  modifiers : after.modifiers = terminal.modifiers
  scancodes : after.scancodes = terminal.scancodes
  serial : after.serial = terminal.serial
  lflag : after.lflag = terminal.lflag

theorem sameDevices_flushLine
    (terminal : Terminal) :
    SameDevices terminal terminal.flushLine := by
  rw [Terminal.flushLine_eq]
  exact ⟨rfl, rfl, rfl, rfl⟩

theorem sameDevices_controlKey?
    {terminal after : Terminal}
    (carried : controlKey? terminal code = some after) :
    SameDevices terminal after := by
  unfold controlKey? at carried
  split at carried
  case h_1 =>
    split at carried <;>
      · obtain rfl := Option.some.inj carried
        exact ⟨rfl, rfl, rfl, rfl⟩
  case h_2 =>
    split at carried
    case isTrue =>
      split at carried
      case isTrue =>
        split at carried
        case isTrue =>
          obtain rfl := Option.some.inj carried
          exact ⟨rfl, rfl, rfl, rfl⟩
        case isFalse =>
          obtain rfl := Option.some.inj carried
          exact sameDevices_flushLine terminal
      case isFalse =>
        obtain rfl := Option.some.inj carried
        exact ⟨rfl, rfl, rfl, rfl⟩
    case isFalse =>
      split at carried
      case isTrue =>
        obtain rfl := Option.some.inj carried
        exact ⟨rfl, rfl, rfl, rfl⟩
      case isFalse =>
        exact absurd carried (by simp)

theorem control?_eq_none_iff
    (terminal : Terminal)
    (code : UInt8)
    (typed : Typed) :
    typed.control? terminal.lflag code = none ↔
      controlKey? terminal code = none := by
  unfold controlKey? Typed.control?
  cases controlSignal? code with
  | some pair =>
      simp only
      split <;> simp
  | none =>
      simp only
      split
      case isTrue =>
        split
        case isTrue =>
          split <;> split <;> simp
        case isFalse =>
          simp
      case isFalse =>
        split <;> simp

/-! ## What scancodes stand for -/

/-- A byte that `keyboard_ascii` yields for keys without `CTRL` only. -/
def IsPlain (raw : UInt8) : Prop := raw ≠ 0x03 ∧ raw ≠ 0x04 ∧ raw ≠ 0x0c

instance (raw : UInt8) : Decidable (IsPlain raw) :=
  inferInstanceAs (Decidable (_ ∧ _))

theorem isPlain_of_keyAscii?
    {code raw : UInt8}
    (typed : keyAscii? modifiers code = some raw) :
    IsPlain raw := by
  have all :
      ∀ (shift ctrl caps : Bool) (position : Fin 256),
        (keyAscii? ⟨shift, ctrl, caps⟩ (UInt8.ofFin position)).all
            (fun byte => decide (IsPlain byte)) =
          true := by
    decide +kernel
  have plain :=
    all modifiers.shift modifiers.ctrl modifiers.caps code.toFin
  change (keyAscii? modifiers code).all _ = true at plain
  rw [typed] at plain
  exact of_decide_eq_true plain

theorem handled?_eq_none_congr
    (unhandled : modifiers.handled? scancode = none)
    (other : Modifiers) :
    other.handled? scancode = none := by
  unfold Modifiers.handled? at unhandled ⊢
  simp only at unhandled ⊢
  split at unhandled
  case isTrue =>
    exact absurd unhandled (by simp)
  case isFalse notShift =>
    rw [if_neg notShift]
    split at unhandled
    case isTrue =>
      exact absurd unhandled (by simp)
    case isFalse notCtrl =>
      rw [if_neg notCtrl]
      split at unhandled
      case isTrue =>
        exact absurd unhandled (by simp)
      case isFalse notCaps =>
        rw [if_neg notCaps]
        split at unhandled
        case isTrue =>
          exact absurd unhandled (by simp)
        case isFalse notReleased =>
          rw [if_neg notReleased]

theorem keyboardAscii_fst
    (unhandled : modifiers.handled? scancode = none) :
    (keyboardAscii modifiers scancode).1 = modifiers := by
  unfold keyboardAscii
  simp only [unhandled]
  split
  case isTrue =>
    split
    case isTrue => rfl
    case isFalse =>
      split
      case isTrue => rfl
      case isFalse =>
        split <;> rfl
  case isFalse =>
    rfl

theorem keyboardAscii_eq_none_of_ctrl
    (unhandled : modifiers.handled? scancode = none)
    (held : modifiers.ctrl = true)
    (plain :
      ∀ raw ∈ (keyboardAscii modifiers scancode).2, IsPlain raw) :
    (keyboardAscii modifiers scancode).2 = none := by
  unfold keyboardAscii at plain ⊢
  simp only [unhandled, held, if_true] at plain ⊢
  split at plain
  case isTrue =>
    exact absurd (plain 0x03 rfl) (by decide)
  case isFalse notInterrupt =>
    rw [if_neg notInterrupt]
    split at plain
    case isTrue =>
      exact absurd (plain 0x04 rfl) (by decide)
    case isFalse notEof =>
      rw [if_neg notEof]
      split at plain
      case isTrue =>
        exact absurd (plain 0x0c rfl) (by decide)
      case isFalse notFormFeed =>
        rw [if_neg notFormFeed]

theorem ne_of_controlKey?_eq_none
    {terminal : Terminal}
    (notControl : controlKey? terminal code = none) :
    code ≠ 0x2e ∧ code ≠ 0x20 ∧ code ≠ 0x26 := by
  unfold controlKey? at notControl
  refine ⟨?_, ?_, ?_⟩
  · rintro rfl
    change (if signalling terminal.lflag = true then _ else _) = none
      at notControl
    split at notControl <;> exact absurd notControl (by simp)
  · rintro rfl
    change (if canonical terminal.lflag = true then _ else _) = none
      at notControl
    split at notControl
    case isTrue =>
      split at notControl <;> exact absurd notControl (by simp)
    case isFalse =>
      exact absurd notControl (by simp)
  · rintro rfl
    exact absurd notControl (by simp [controlSignal?])

theorem isPlain_of_unhandled
    {terminal : Terminal}
    {scancode raw : UInt8}
    (unhandled : handleKeyboardInterrupt terminal scancode = none)
    (typed : (keyboardAscii terminal.modifiers scancode).2 = some raw) :
    IsPlain raw := by
  unfold handleKeyboardInterrupt at unhandled
  unfold keyboardAscii at typed
  cases handled : terminal.modifiers.handled? scancode with
  | some modifiers =>
      simp [handled] at unhandled
  | none =>
      simp only [handled] at unhandled typed
      split at typed
      case isTrue held =>
        rw [if_pos held] at unhandled
        obtain ⟨notInterrupt, notEof, notFormFeed⟩ :=
          ne_of_controlKey?_eq_none unhandled
        rw [if_neg notInterrupt, if_neg notEof, if_neg notFormFeed] at typed
        exact absurd typed (by simp)
      case isFalse =>
        exact isPlain_of_keyAscii? typed

/-! ## The invariant -/

/-- What holds of the bytes and scancodes that are still on their way. -/
structure Consistent (system : System) : Prop where
  noSerial : system.terminal.serial = []
  unhandled :
    ∀ scancode ∈ system.waiting,
      system.terminal.modifiers.handled? scancode = none
  plain : ∀ raw ∈ system.unprocessed, IsPlain raw
  flushing :
    ∀ index stop : Nat,
      system.reader = .flush index stop →
      index ≤ stop ∧ stop = system.terminal.lineLen
  alone :
    canonical system.terminal.lflag = false →
    system.reader.pastLook = true →
    system.unprocessed ≠ [] →
    system.terminal.input.contents = []

theorem bytesOf_eq_nil_of_ctrl
    {scancodes : List UInt8}
    (held : modifiers.ctrl = true)
    (unhandled :
      ∀ scancode ∈ scancodes, modifiers.handled? scancode = none)
    (plain : ∀ raw ∈ bytesOf modifiers scancodes, IsPlain raw) :
    bytesOf modifiers scancodes = [] := by
  unfold bytesOf at plain ⊢
  rw [List.filterMap_eq_nil_iff]
  intro scancode member
  refine keyboardAscii_eq_none_of_ctrl (unhandled scancode member) held ?_
  intro raw typed
  exact plain raw (List.mem_filterMap.mpr ⟨scancode, member, typed⟩)

/-- A step of a careful run. -/
structure Follows (system after : System) (keyboard : Keyboard) : Prop where
  consistent : Consistent after
  keyboardIs : after.keyboard = keyboard
  lflag : after.terminal.lflag = system.terminal.lflag

section Keys

variable
  {system : System}
  {scancode : UInt8}

theorem follows_modifiers
    (holds : Consistent system)
    (careful : Careful system (.key scancode))
    (handled : system.terminal.modifiers.handled? scancode = some modifiers) :
    Follows system (system.step (.key scancode))
      (system.keyboard.arrive system.terminal.lflag scancode) := by
  have after :
      keyboardInterrupt system.terminal scancode =
        { system.terminal with modifiers := modifiers } := by
    unfold keyboardInterrupt handleKeyboardInterrupt
    simp [handled]
  have sameBytes := careful.1
  rw [after] at sameBytes
  have stepIs :
      system.step (.key scancode) =
        { system with
          terminal := { system.terminal with modifiers := modifiers } } := by
    rw [System.step_key, after]
  have sameUnprocessed :
      (system.step (.key scancode)).unprocessed = system.unprocessed := by
    rw [stepIs]
    exact congrArg (system.translated ++ ·) sameBytes
  refine ⟨?_, ?_, by rw [stepIs]⟩
  · refine ⟨?_, ?_, ?_, ?_, ?_⟩
    · rw [stepIs]
      exact holds.noSerial
    · intro other member
      rw [stepIs] at member ⊢
      exact handled?_eq_none_congr (holds.unhandled other member) modifiers
    · rw [sameUnprocessed]
      exact holds.plain
    · rw [stepIs]
      exact holds.flushing
    · rw [sameUnprocessed, stepIs]
      exact holds.alone
  · have settledIs :
        (system.step (.key scancode)).settled = system.settled := by
      rw [stepIs]
      rfl
    unfold Keyboard.arrive System.keyboard
    simp only [handled]
    rw [sameUnprocessed, settledIs, stepIs]

theorem settled_of_not_processing
    (between : system.reader.processing = false) :
    system.settled = system.base ∧ system.translated = [] := by
  unfold System.settled System.translated
  cases here : system.reader with
  | process raw | flush index stop | newline | clear =>
      rw [here] at between
      cases between
  | _ =>
      exact ⟨rfl, rfl⟩

section

variable
  (holds : Consistent system)
  (careful : Careful system (.key scancode))
  (roomLeft : RoomLeft system (.key scancode))

include holds careful roomLeft

theorem follows_control
    (isControl : IsControlKey system.terminal scancode) :
    Follows system (system.step (.key scancode))
      (system.keyboard.arrive system.terminal.lflag scancode) := by
  have between := careful.2.1 isControl
  obtain ⟨unhandled, held, carried⟩ := isControl
  obtain ⟨after, carriedIs⟩ := Option.isSome_iff_exists.mp carried
  have interrupted : keyboardInterrupt system.terminal scancode = after := by
    unfold keyboardInterrupt handleKeyboardInterrupt
    simp [unhandled, held, carriedIs]
  have stepIs :
      system.step (.key scancode) = { system with terminal := after } := by
    rw [System.step_key, interrupted]
  have same := sameDevices_controlKey? carriedIs
  obtain ⟨settledIs, noneTranslated⟩ := settled_of_not_processing between
  have nothingWaits :
      bytesOf system.terminal.modifiers system.waiting = [] := by
    refine bytesOf_eq_nil_of_ctrl held holds.unhandled fun raw member => ?_
    exact holds.plain raw (List.mem_append_right _ member)
  have sameWaiting :
      System.waiting { system with terminal := after } = system.waiting := by
    unfold System.waiting
    rw [same.scancodes]
  have noneLeft :
      System.unprocessed { system with terminal := after } = [] := by
    unfold System.unprocessed
    rw [sameWaiting]
    change system.translated ++ bytesOf after.modifiers system.waiting = []
    rw [same.modifiers, nothingWaits, noneTranslated, List.append_nil]
  have wasNoneLeft : system.unprocessed = [] := by
    unfold System.unprocessed
    rw [nothingWaits, noneTranslated, List.append_nil]
  rw [stepIs]
  refine ⟨⟨?_, ?_, ?_, ?_, ?_⟩, ?_, same.lflag⟩
  · exact same.serial.trans holds.noSerial
  · intro other member
    rw [sameWaiting] at member
    rw [same.modifiers]
    exact holds.unhandled other member
  · rw [noneLeft]
    simp
  · intro index stop here
    rw [show system.reader = .flush index stop from here] at between
    cases between
  · intro _ _ someLeft
    exact absurd noneLeft someLeft
  · have room : after.input.length + 1 < inputCapacity := by
      have roomInput := roomLeft.1
      rw [stepIs] at roomInput
      exact roomInput
    obtain ⟨settledAfter, -⟩ :=
      @settled_of_not_processing { system with terminal := after } between
    have controlled := typed_controlKey? carriedIs room system.returned
    unfold Keyboard.arrive System.keyboard
    rw [noneLeft, wasNoneLeft, settledAfter, settledIs]
    simp only [List.foldl_nil, unhandled, held, if_true, System.base,
      controlled, same.modifiers]

theorem follows_queued
    (left : handleKeyboardInterrupt system.terminal scancode = none) :
    Follows system (system.step (.key scancode))
      (system.keyboard.arrive system.terminal.lflag scancode) := by
  have unhandled : system.terminal.modifiers.handled? scancode = none := by
    unfold handleKeyboardInterrupt at left
    cases handled : system.terminal.modifiers.handled? scancode with
    | none => rfl
    | some modifiers => simp [handled] at left
  have notControl :
      (if system.terminal.modifiers.ctrl = true then
        controlKey? system.terminal (keyCode scancode)
      else none) = none := by
    unfold handleKeyboardInterrupt at left
    simpa only [unhandled] using left
  have stepIs :
      system.step (.key scancode) =
        { system with
          terminal :=
            { system.terminal with
              scancodes := system.terminal.scancodes.push scancode } } := by
    rw [System.step_key]
    unfold keyboardInterrupt
    rw [left]
  have pushed :
      (system.terminal.scancodes.push scancode).contents =
        system.terminal.scancodes.contents ++ [scancode] := by
    have roomScancodes := roomLeft.2
    rw [stepIs] at roomScancodes
    exact RingQueue.contents_push_of_room roomScancodes
  have waitingIs :
      (system.step (.key scancode)).waiting =
        system.waiting ++ [scancode] := by
    rw [stepIs]
    unfold System.waiting
    simp only [pushed, List.append_assoc]
  have unprocessedIs :
      (system.step (.key scancode)).unprocessed =
        system.unprocessed ++
          ((keyboardAscii system.terminal.modifiers scancode).2).toList := by
    unfold System.unprocessed
    rw [waitingIs, stepIs, List.append_assoc]
    congr 1
    unfold bytesOf
    rw [List.filterMap_append]
    congr 1
  refine ⟨⟨?_, ?_, ?_, ?_, ?_⟩, ?_, by rw [stepIs]⟩
  · rw [stepIs]
    exact holds.noSerial
  · intro other member
    rw [waitingIs] at member
    rw [stepIs]
    rcases List.mem_append.mp member with before | isNew
    · exact holds.unhandled other before
    · rw [List.mem_singleton.mp isNew]
      exact unhandled
  · intro raw member
    rw [unprocessedIs] at member
    rcases List.mem_append.mp member with before | isNew
    · exact holds.plain raw before
    · exact isPlain_of_unhandled left (Option.mem_toList.mp isNew)
  · rw [stepIs]
    exact holds.flushing
  · rw [unprocessedIs, stepIs]
    intro noEditing pastLook someLeft
    cases typed : (keyboardAscii system.terminal.modifiers scancode).2 with
    | none =>
        refine holds.alone noEditing pastLook ?_
        simpa [typed] using someLeft
    | some raw =>
        exact careful.2.2 noEditing ⟨left, by simp [typed]⟩ pastLook
  · unfold Keyboard.arrive System.keyboard
    have settledIs :
        (system.step (.key scancode)).settled = system.settled := by
      rw [stepIs]
      rfl
    have notControlled :
        (if system.terminal.modifiers.ctrl = true then
          Typed.control? system.terminal.lflag
            (system.unprocessed.foldl
              (Typed.process system.terminal.lflag) system.settled)
            (keyCode scancode)
        else none) = none := by
      split
      case isTrue held =>
        rw [if_pos held] at notControl
        exact (control?_eq_none_iff _ _ _).mpr notControl
      case isFalse =>
        rfl
    rw [unprocessedIs, settledIs, stepIs]
    simp only [unhandled, notControlled, List.foldl_append]
    cases (keyboardAscii system.terminal.modifiers scancode).2 <;> rfl

end

end Keys

section Steps

variable {system after : System}

section

variable (holds : Consistent system)

include holds

theorem follows_of_same
    (modifiers : after.terminal.modifiers = system.terminal.modifiers)
    (serial : after.terminal.serial = system.terminal.serial)
    (lflag : after.terminal.lflag = system.terminal.lflag)
    (waiting : ∀ scancode ∈ after.waiting, scancode ∈ system.waiting)
    (unprocessed : after.unprocessed = system.unprocessed)
    (settled : after.settled = system.settled)
    (flushing :
      ∀ index stop : Nat,
        after.reader = .flush index stop →
        index ≤ stop ∧ stop = after.terminal.lineLen)
    (alone :
      canonical system.terminal.lflag = false →
      after.reader.pastLook = true →
      system.unprocessed ≠ [] →
      after.terminal.input.contents = []) :
    Follows system after system.keyboard where
  consistent :=
    { noSerial := serial.trans holds.noSerial
      unhandled := fun scancode member => by
        rw [modifiers]
        exact holds.unhandled scancode (waiting scancode member)
      plain := by
        rw [unprocessed]
        exact holds.plain
      flushing := flushing
      alone := by
        rw [lflag, unprocessed]
        exact alone }
  keyboardIs := by
    unfold System.keyboard
    rw [modifiers, unprocessed, settled, lflag]
  lflag := lflag

theorem follows_check
    {next : Reader}
    (here : system.reader = .check ∨ system.reader = .recheck)
    (nextIs : next = .look ∨ next = .halt) :
    Follows system (system.check next) system.keyboard := by
  unfold System.check
  rcases here with here | here <;>
    rcases nextIs with rfl | rfl <;>
    cases found : (signalPendingUnblocked system.terminal).1 <;>
    refine follows_of_same holds rfl rfl rfl ?_ ?_ ?_ ?_ ?_ <;>
    simp [System.waiting, System.unprocessed, System.translated,
      System.settled, System.base, Terminal.typed, Reader.pastLook, found,
      here]

theorem follows_popInput
    {next : Reader}
    (here :
      system.reader = .look ∨ system.reader = .flushed ∨
        system.reader = .again)
    (nextIs : next = .serial ∨ next = .again ∨ next = .check) :
    Follows system (system.popInput next) system.keyboard := by
  unfold System.popInput
  cases taken : system.terminal.input.pop with
  | none =>
      have nothing := (RingQueue.pop_eq_none_iff _).mp taken
      rcases here with here | here | here <;>
        rcases nextIs with rfl | rfl | rfl <;>
        refine follows_of_same holds rfl rfl rfl ?_ ?_ ?_ ?_ ?_ <;>
        simp [System.waiting, System.unprocessed, System.translated,
          System.settled, System.base, System.goto, here, nothing]
  | some pair =>
      obtain ⟨byte, rest⟩ := pair
      have contentsAre := RingQueue.contents_of_pop taken
      rcases here with here | here | here <;>
        refine follows_of_same holds rfl rfl rfl ?_ ?_ ?_ ?_ ?_ <;>
        simp [System.waiting, System.unprocessed, System.translated,
          System.settled, System.base, Terminal.typed, Terminal.kept,
          Reader.pastLook, System.give, System.onTerminal, here,
          contentsAre]

theorem follows_popScancode
    (here : system.reader = .scancode) :
    Follows system system.popScancode system.keyboard := by
  unfold System.popScancode
  cases taken : system.terminal.scancodes.pop with
  | none =>
      refine follows_of_same holds rfl rfl rfl ?_ ?_ ?_ ?_ ?_ <;>
        simp [System.waiting, System.unprocessed, System.translated,
          System.settled, System.base, System.goto, Reader.pastLook, here]
  | some pair =>
      obtain ⟨scancode, rest⟩ := pair
      have contentsAre := RingQueue.contents_of_pop taken
      have alone := holds.alone
      refine follows_of_same holds rfl rfl rfl ?_ ?_ ?_ ?_ ?_
      · simp [System.waiting, System.goto, System.onTerminal, here,
          contentsAre]
      · simp [System.unprocessed, System.translated, System.waiting,
          System.goto, System.onTerminal, here, contentsAre]
      · simp only [System.settled, here]
        rfl
      · simp [System.goto]
      · intro noEditing _ someLeft
        exact alone noEditing (by simp [here, Reader.pastLook]) someLeft

theorem follows_translate
    (here : system.reader = .translate scancode) :
    Follows system (system.translate scancode) system.keyboard := by
  have unhandled := holds.unhandled scancode (by simp [System.waiting, here])
  have sameModifiers := keyboardAscii_fst unhandled
  have alone := holds.alone
  unfold System.translate
  cases typed : keyboardAscii system.terminal.modifiers scancode with
  | mk modifiers byte =>
      rw [typed] at sameModifiers
      cases sameModifiers
      have byteIs :
          (keyboardAscii system.terminal.modifiers scancode).2 = byte := by
        rw [typed]
      cases byte with
      | none =>
          refine follows_of_same holds rfl rfl rfl ?_ ?_ ?_ ?_ ?_
          · simpa [System.waiting, System.goto, System.onTerminal, here]
              using fun other (member : _) => .inr member
          · simp [System.unprocessed, System.translated, System.waiting,
              bytesOf, System.goto, System.onTerminal, here, byteIs]
          · simp [System.settled, System.base, System.goto,
              System.onTerminal, here]
          · simp [System.goto]
          · simp [System.goto, Reader.pastLook]
      | some raw =>
          refine follows_of_same holds rfl rfl rfl ?_ ?_ ?_ ?_ ?_
          · simpa [System.waiting, System.goto, System.onTerminal, here]
              using fun other (member : _) => .inr member
          · simp [System.unprocessed, System.translated, System.waiting,
              bytesOf, System.goto, System.onTerminal, here, byteIs]
          · simp [System.settled, System.base, System.goto,
              System.onTerminal, here]
          · simp [System.goto]
          · intro noEditing _ someLeft
            exact alone noEditing (by simp [here, Reader.pastLook]) someLeft

theorem follows_of_processed
    {raw : UInt8}
    (modifiers : after.terminal.modifiers = system.terminal.modifiers)
    (serial : after.terminal.serial = system.terminal.serial)
    (scancodes : after.terminal.scancodes = system.terminal.scancodes)
    (lflag : after.terminal.lflag = system.terminal.lflag)
    (here : system.reader = .process raw)
    (settled :
      after.settled = system.base.process system.terminal.lflag raw)
    (done :
      after.reader = .idle ∨ after.reader = .again ∨
        after.reader = .flush 0 after.terminal.lineLen) :
    Follows system after system.keyboard := by
  have waitingIs : after.waiting = system.waiting := by
    rcases done with done | done | done <;>
      simp [System.waiting, scancodes, done, here]
  have unprocessedIs :
      system.unprocessed = raw :: after.unprocessed := by
    unfold System.unprocessed
    rw [waitingIs, modifiers]
    rcases done with done | done | done <;>
      simp [System.translated, done, here]
  have settledWas : system.settled = system.base := by
    simp [System.settled, here]
  refine ⟨⟨?_, ?_, ?_, ?_, ?_⟩, ?_, lflag⟩
  · exact serial.trans holds.noSerial
  · rw [waitingIs, modifiers]
    exact holds.unhandled
  · intro other member
    refine holds.plain other ?_
    rw [unprocessedIs]
    exact List.mem_cons_of_mem _ member
  · intro index stop flushing
    rcases done with done | done | done <;> rw [done] at flushing
    · exact absurd flushing (by simp)
    · exact absurd flushing (by simp)
    · obtain ⟨rfl, rfl⟩ := Reader.flush.inj flushing
      exact ⟨Nat.zero_le _, rfl⟩
  · intro _ pastLook
    rcases done with done | done | done <;> rw [done] at pastLook <;>
      exact absurd pastLook (by simp [Reader.pastLook])
  · unfold System.keyboard
    rw [modifiers, lflag, settled, unprocessedIs, settledWas]
    rfl

theorem follows_processInputByte
    {raw : UInt8}
    (here : system.reader = .process raw)
    (processed : List UInt8) :
    Follows system
      (System.processInputByte { system with processed := processed } raw)
      system.keyboard := by
  have plain : IsPlain raw := by
    refine holds.plain raw ?_
    simp [System.unprocessed, System.translated, here]
  have alone := holds.alone
  unfold System.processInputByte
  simp only
  cases signal :
      (if signalling system.terminal.lflag = true then
        interruptSignal raw
      else none) with
  | some signum =>
      refine follows_of_processed holds rfl rfl rfl rfl here ?_
        (.inr (.inl rfl))
      unfold Typed.process
      rw [signal]
      rfl
  | none =>
      cases edits : canonical system.terminal.lflag with
      | false =>
          have nothingWaits : system.terminal.input.contents = [] := by
            refine alone edits (by simp [here, Reader.pastLook]) ?_
            simp [System.unprocessed, System.translated, here]
          refine follows_of_processed holds rfl rfl rfl rfl here ?_
            (.inl rfl)
          unfold Typed.process
          simp only [signal, edits, if_true]
          simp [System.settled, System.give, System.base, Terminal.typed,
            Typed.put, nothingWaits]
      | true =>
          simp only [Bool.true_eq_false, if_false]
          by_cases erases : raw = 0x08 ∨ raw = 0x7f
          · rw [if_pos erases]
            refine follows_of_processed holds rfl rfl rfl rfl here ?_
              (.inr (.inl rfl))
            unfold Typed.process
            simp only [signal, edits, Bool.true_eq_false, if_false, erases,
              if_true]
            exact Terminal.typed_erase _ _
          · rw [if_neg erases, if_neg plain.2.1]
            by_cases ends : raw = 0x0d ∨ raw = 0x0a
            · rw [if_pos ends]
              refine follows_of_processed holds rfl rfl rfl rfl here ?_
                (.inr (.inr rfl))
              unfold Typed.process
              simp only [signal, edits, Bool.true_eq_false, if_false,
                erases, plain.2.1, ends, if_true]
              simp [System.settled, System.goto, System.base, Typed.flush,
                Terminal.typed, List.take_of_length_le]
            · rw [if_neg ends]
              refine follows_of_processed holds
                (Terminal.modifiers_keep _ _) (Terminal.serial_keep _ _)
                (Terminal.scancodes_keep _ _) (Terminal.lflag_keep _ _)
                here ?_ (.inr (.inl rfl))
              unfold Typed.process
              simp only [signal, edits, Bool.true_eq_false, if_false,
                erases, plain.2.1, ends]
              exact Terminal.typed_keep _ _ _

theorem follows_flushStep
    {index stop : Nat}
    (here : system.reader = .flush index stop)
    (roomLeft :
      (system.flushStep index stop).terminal.input.length + 1 <
        inputCapacity) :
    Follows system (system.flushStep index stop) system.keyboard := by
  obtain ⟨ordered, stopIs⟩ := holds.flushing index stop here
  unfold System.flushStep at roomLeft ⊢
  by_cases inside : index < stop
  · rw [if_pos inside] at roomLeft ⊢
    have pushed :
        (system.terminal.input.push (system.terminal.line index)).contents =
          system.terminal.input.contents ++ [system.terminal.line index] :=
      RingQueue.contents_push_of_room roomLeft
    have nextByte :
        system.terminal.kept.drop index =
          system.terminal.line index ::
            system.terminal.kept.drop (index + 1) := by
      rw [List.drop_eq_getElem_cons
        (by rw [Terminal.length_kept]; omega)]
      simp [Terminal.kept]
    refine follows_of_same holds rfl rfl rfl ?_ ?_ ?_ ?_ ?_
    · simp [System.waiting, System.goto, System.onTerminal,
        Terminal.pushInput, here]
    · simp [System.unprocessed, System.translated, System.waiting,
        System.goto, System.onTerminal, Terminal.pushInput, here]
    · have wholeLine :
          system.terminal.kept.take stop = system.terminal.kept :=
        List.take_of_length_le (by rw [Terminal.length_kept]; omega)
      have settledWas :
          system.settled =
            ⟨[], system.returned ++ system.terminal.input.contents ++
                system.terminal.kept.drop index ++ [10],
              system.terminal.raised⟩ := by
        simp [System.settled, here, wholeLine, System.base, Terminal.typed]
      rw [settledWas, nextByte]
      change
        Typed.mk []
            (system.returned ++
                (system.terminal.input.push
                  (system.terminal.line index)).contents ++
              (system.terminal.kept.take stop).drop (index + 1) ++ [10])
            system.terminal.raised =
          _
      rw [pushed, wholeLine]
      simp
    · intro other otherStop same
      obtain ⟨rfl, rfl⟩ := Reader.flush.inj same
      exact ⟨inside, stopIs⟩
    · simp [System.goto, Reader.pastLook]
  · rw [if_neg inside]
    have done : index = stop := by omega
    refine follows_of_same holds rfl rfl rfl ?_ ?_ ?_ ?_ ?_
    · simp [System.waiting, System.goto, here]
    · simp [System.unprocessed, System.translated, System.waiting,
        System.goto, here]
    · simp [System.settled, System.goto, System.base, here, done]
    · simp [System.goto]
    · simp [System.goto, Reader.pastLook]

theorem follows_newline
    (here : system.reader = .newline)
    (roomLeft :
      (system.terminal.pushInput 10).input.length + 1 < inputCapacity) :
    Follows system
      ((system.onTerminal fun terminal => terminal.pushInput 10).goto .clear)
      system.keyboard := by
  have pushed :=
    @Terminal.typed_pushInput _ system.returned _ roomLeft
  refine follows_of_same holds rfl rfl rfl ?_ ?_ ?_ ?_ ?_
  · simp [System.waiting, System.goto, System.onTerminal,
      Terminal.pushInput, here]
  · simp [System.unprocessed, System.translated, System.waiting,
      System.goto, System.onTerminal, Terminal.pushInput, here]
  · simp only [System.settled, System.goto, System.base, System.onTerminal,
      here, pushed, Typed.put]
  · simp [System.goto]
  · simp [System.goto, Reader.pastLook]

theorem follows_readerStep
    (roomLeft :
      system.readerStep.terminal.input.length + 1 < inputCapacity) :
    Follows system system.readerStep system.keyboard := by
  unfold System.readerStep at roomLeft ⊢
  cases here : system.reader with
  | idle =>
      exact ⟨holds, rfl, rfl⟩
  | check =>
      exact follows_check holds (.inl here) (.inl rfl)
  | look =>
      exact follows_popInput holds (.inl here) (.inl rfl)
  | serial =>
      have alone := holds.alone
      unfold System.serialReadByte
      simp only [holds.noSerial]
      refine follows_of_same holds rfl rfl rfl ?_ ?_ ?_ ?_ ?_
      · simp [System.waiting, System.goto, here]
      · simp [System.unprocessed, System.translated, System.waiting,
          System.goto, here]
      · simp [System.settled, System.base, System.goto, here]
      · simp [System.goto]
      · intro noEditing _ someLeft
        exact alone noEditing (by simp [here, Reader.pastLook]) someLeft
  | scancode =>
      exact follows_popScancode holds here
  | translate scancode =>
      exact follows_translate holds here
  | process raw =>
      exact follows_processInputByte holds here _
  | flush index stop =>
      simp only [here] at roomLeft
      exact follows_flushStep holds here roomLeft
  | newline =>
      simp only [here] at roomLeft
      exact follows_newline holds here roomLeft
  | clear =>
      refine follows_of_same holds rfl rfl rfl ?_ ?_ ?_ ?_ ?_
      · simp [System.waiting, System.goto, System.onTerminal,
          Terminal.dropLine, here]
      · simp [System.unprocessed, System.translated, System.waiting,
          System.goto, System.onTerminal, Terminal.dropLine, here]
      · simp only [System.settled, here]
        rfl
      · simp [System.goto]
      · simp [System.goto, Reader.pastLook]
  | flushed =>
      exact follows_popInput holds (.inr (.inl here)) (.inr (.inl rfl))
  | again =>
      exact follows_popInput holds (.inr (.inr here)) (.inr (.inr rfl))
  | recheck =>
      exact follows_check holds (.inr here) (.inr rfl)
  | halt =>
      refine follows_of_same holds rfl rfl rfl ?_ ?_ ?_ ?_ ?_ <;>
        simp [System.waiting, System.unprocessed, System.translated,
          System.settled, System.base, System.goto, Reader.pastLook, here]

end

end Steps

/-! ## Runs -/

/-- What an event does to what has arrived. -/
def afterEvent
    (lflag : UInt32)
    (keyboard : Keyboard)
    (event : Event) :
    Keyboard :=
  match event with
  | .key scancode => keyboard.arrive lflag scancode
  | _ => keyboard

/-- An event of a careful run on the keyboard, with room in the queues. -/
def Orderly (system : System) (event : Event) : Prop :=
  FromKeyboard system event ∧ RoomLeft system event ∧ Careful system event

theorem follows_step
    (holds : Consistent system)
    {event : Event}
    (orderly : Orderly system event) :
    Follows system (system.step event)
      (afterEvent system.terminal.lflag system.keyboard event) := by
  obtain ⟨fromKeyboard, roomLeft, careful⟩ := orderly
  cases event with
  | key scancode =>
      cases handled : system.terminal.modifiers.handled? scancode with
      | some modifiers =>
          exact follows_modifiers holds careful handled
      | none =>
          by_cases isControl : IsControlKey system.terminal scancode
          · exact follows_control holds careful roomLeft isControl
          · refine follows_queued holds careful roomLeft ?_
            unfold handleKeyboardInterrupt
            simp only [handled]
            split
            case isTrue held =>
              rw [← Option.not_isSome_iff_eq_none]
              exact fun carried => isControl ⟨handled, held, carried⟩
            case isFalse =>
              rfl
  | serial byte =>
      exact absurd fromKeyboard id
  | call =>
      unfold System.step
      cases here : system.reader with
      | idle =>
          refine follows_of_same holds rfl rfl rfl ?_ ?_ ?_ ?_ ?_ <;>
            simp [System.waiting, System.unprocessed, System.translated,
              System.settled, System.base, System.goto, Reader.pastLook,
              here]
      | _ =>
          exact ⟨holds, rfl, rfl⟩
  | reader =>
      exact follows_readerStep holds roomLeft.1
  | kernel process pending =>
      exact follows_of_same holds rfl rfl rfl (fun _ member => member) rfl
        rfl holds.flushing holds.alone

theorem keyboard_run
    {events : List Event}
    (holds : Consistent system)
    (orderly : Along Orderly system events) :
    (system.run events).keyboard =
      (keysOf events).foldl (Keyboard.arrive system.terminal.lflag)
        system.keyboard := by
  induction events generalizing system with
  | nil =>
      rfl
  | cons event rest inductionHypothesis =>
      obtain ⟨now, later⟩ := orderly
      have follows := follows_step holds now
      change ((system.step event).run rest).keyboard = _
      rw [inductionHypothesis follows.consistent later, follows.lflag,
        follows.keyboardIs]
      cases event <;> rfl

/-- No scancode and no byte is on its way. -/
def Resting (system : System) : Prop :=
  (system.reader = .idle ∨ system.reader = .halt) ∧
    NothingArrived system

/-- Nothing is on its way, and all input was returned. -/
def Finished (system : System) : Prop :=
  Resting system ∧ system.terminal.input.contents = []

namespace Resting

variable {system : System}

theorem consistent
    (resting : Resting system) :
    Consistent system := by
  obtain ⟨between, noSerial, noScancodes⟩ := resting
  have noneWaiting : system.waiting = [] := by
    rcases between with here | here <;>
      simp [System.waiting, here, noScancodes]
  have noneUnprocessed : system.unprocessed = [] := by
    unfold System.unprocessed
    rw [noneWaiting]
    rcases between with here | here <;>
      simp [System.translated, here, bytesOf]
  refine ⟨noSerial, ?_, ?_, ?_, ?_⟩
  · simp [noneWaiting]
  · simp [noneUnprocessed]
  · rcases between with here | here <;> simp [here]
  · simp [noneUnprocessed]

theorem keyboard_eq
    (resting : Resting system) :
    system.keyboard = ⟨system.terminal.modifiers, system.base⟩ := by
  obtain ⟨between, noSerial, noScancodes⟩ := resting
  rcases between with here | here <;>
    simp [System.keyboard, System.unprocessed, System.translated,
      System.waiting, System.settled, bytesOf, here, noScancodes]

end Resting

theorem careful_of_prompt
    {event : Event}
    (prompt : Prompt system event) :
    Careful system event := by
  cases event with
  | key scancode =>
      obtain ⟨between, noInput, noScancodes⟩ := prompt
      have noneWaiting : system.waiting = [] := by
        rcases between with here | here <;>
          simp [System.waiting, here, noScancodes]
      refine ⟨by rw [noneWaiting]; rfl, fun _ => ?_, fun _ _ _ => noInput⟩
      rcases between with here | here
      · rw [here]
        rfl
      · rw [here]
        rfl
  | _ =>
      trivial

/--
Careful runs over the same keys, in which the queues never fill, return the
same bytes and raise the same signals.  Runs in which every scancode is handled
before the next one arrives are careful.
-/
theorem keyboard_timing
    {start : System}
    (resting : Resting start)
    {left right : List Event}
    (sameKeys : keysOf left = keysOf right)
    (leftKeys : Along FromKeyboard start left)
    (rightKeys : Along FromKeyboard start right)
    (leftRoom : Along RoomLeft start left)
    (rightRoom : Along RoomLeft start right)
    (leftCareful : Along Careful start left)
    (rightCareful : Along Careful start right)
    (leftFinished : Finished (start.run left))
    (rightFinished : Finished (start.run right)) :
    (start.run left).returned = (start.run right).returned ∧
      (start.run left).terminal.raised = (start.run right).terminal.raised ∧
      ∀ events : List Event,
        Along Prompt start events → Along Careful start events := by
  have leftIs :=
    keyboard_run resting.consistent (leftKeys.and (leftRoom.and leftCareful))
  have rightIs :=
    keyboard_run resting.consistent
      (rightKeys.and (rightRoom.and rightCareful))
  rw [← sameKeys, ← leftIs, leftFinished.1.keyboard_eq,
    rightFinished.1.keyboard_eq] at rightIs
  have sameBase := (Keyboard.mk.inj rightIs).2
  have sameOut := congrArg Typed.out sameBase
  have sameRaised := congrArg Typed.raised sameBase
  simp only [System.base, Terminal.typed, leftFinished.2, rightFinished.2,
    List.append_nil] at sameOut
  exact ⟨sameOut.symm, sameRaised.symm,
    fun events prompt => prompt.mono fun _ _ => careful_of_prompt⟩

/-! ## A key that is read after the shift key is let go -/

def steps (amount : Nat) : List Event := List.replicate amount .reader

/-- Shift and `a`, shift is let go, enter: read as they arrive. -/
def readAtOnce : List Event :=
  [.call] ++ steps 5 ++ [.key 0x2a, .key 0x1e] ++ steps 13 ++
    [.key 0xaa, .key 0x1c] ++ steps 12 ++ [.call] ++ steps 2

/-- The same keys, all of them before the first call. -/
def readLate : List Event :=
  [.key 0x2a, .key 0x1e, .key 0xaa, .key 0x1c, .call] ++ steps 24 ++
    [.call] ++ steps 2

section Decide

instance decidableAlong
    (meets : System → Event → Prop)
    [decides : ∀ (system : System) (event : Event),
      Decidable (meets system event)] :
    (system : System) →
    (events : List Event) →
    Decidable (Along meets system events)
  | _, [] => isTrue trivial
  | system, event :: rest =>
      have := decidableAlong meets (system.step event) rest
      inferInstanceAs
        (Decidable
          (meets system event ∧ Along meets (system.step event) rest))

instance (terminal : Terminal) (scancode : UInt8) :
    Decidable (Types terminal scancode) :=
  inferInstanceAs (Decidable (_ ∧ _))

instance (system : System) (event : Event) :
    Decidable (Careful system event) :=
  match event with
  | .key _ => inferInstanceAs (Decidable (_ ∧ _ ∧ _))
  | .serial _ => isTrue trivial
  | .call => isTrue trivial
  | .reader => isTrue trivial
  | .kernel _ _ => isTrue trivial

instance (system : System) (event : Event) :
    Decidable (FromKeyboard system event) :=
  match event with
  | .key _ => isTrue trivial
  | .serial _ => isFalse id
  | .call => isTrue trivial
  | .reader => isTrue trivial
  | .kernel _ _ => isTrue trivial

instance (system : System) (event : Event) :
    Decidable (RoomLeft system event) :=
  inferInstanceAs (Decidable (_ ∧ _))

instance (system : System) (event : Event) :
    Decidable (Prompt system event) :=
  match event with
  | .key _ => inferInstanceAs (Decidable (_ ∧ _ ∧ _))
  | .serial _ => isTrue trivial
  | .call => isTrue trivial
  | .reader => isTrue trivial
  | .kernel _ _ => isTrue trivial

instance (system : System) : Decidable (Finished system) :=
  inferInstanceAs (Decidable (((_ ∨ _) ∧ (_ ∧ _)) ∧ _))

end Decide

theorem resting_initial : Resting System.initial :=
  ⟨fresh_initial.drained.1, fresh_initial.nothing⟩

/-- The late reader returns `a` where the one in time returns `A`. -/
theorem late_reader_misses_shift :
    keysOf readLate = keysOf readAtOnce ∧
      Along FromKeyboard System.initial readAtOnce ∧
      Along FromKeyboard System.initial readLate ∧
      Along RoomLeft System.initial readAtOnce ∧
      Along RoomLeft System.initial readLate ∧
      Along Prompt System.initial readAtOnce ∧
      Finished (System.initial.run readAtOnce) ∧
      Finished (System.initial.run readLate) ∧
      (System.initial.run readAtOnce).returned = [0x41, 0x0a] ∧
      (System.initial.run readLate).returned = [0x61, 0x0a] := by
  decide +kernel

/-- The same keys without shift, two of them before the first call. -/
def readWithoutShift : List Event :=
  [.key 0x1e, .key 0x1c, .call] ++ steps 24 ++ [.call] ++ steps 2

/-- The same keys without shift, read as they arrive. -/
def readWithoutShiftAtOnce : List Event :=
  [.call] ++ steps 5 ++ [.key 0x1e] ++ steps 13 ++ [.key 0x1c] ++
    steps 12 ++ [.call] ++ steps 2

theorem late_reader_without_shift :
    (System.initial.run readWithoutShift).returned =
      (System.initial.run readWithoutShiftAtOnce).returned :=
  (keyboard_timing resting_initial (by decide +kernel) (by decide +kernel)
    (by decide +kernel) (by decide +kernel) (by decide +kernel)
    (by decide +kernel) (by decide +kernel) (by decide +kernel)
    (by decide +kernel)).1

end VibuxOS.Tty
