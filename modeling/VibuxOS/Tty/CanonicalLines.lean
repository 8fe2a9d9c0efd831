import VibuxOS.Tty.Reader
import Mathlib.Data.List.TakeDrop

namespace VibuxOS.Tty

open VibuxOS.Lib VibuxOS.Files

/-!
# What canonical reads deliver

A finished line moves from the line buffer into the input queue.  The reader
takes the queue empty before it processes another byte, so a line always meets
an empty queue, at whatever position of the ring.  The queue has room for one
element less than its ring has cells: as many bytes as a line can keep.  The
newline of a line that is full to the last byte has no room left.
-/

/-! ## Lines -/

/-- The finished lines of some bytes, and the line that is still open. -/
structure Lines where
  finished : List (List UInt8)
  current : List UInt8
  deriving Repr, DecidableEq

namespace Lines

/-- The lines after another byte. -/
def type (lines : Lines) (byte : UInt8) : Lines :=
  if byte = 0x08 ∨ byte = 0x7f then
    { lines with current := lines.current.dropLast }
  else if byte = 0x0d ∨ byte = 0x0a then
    { finished := lines.finished ++ [lines.current]
      current := [] }
  else if lines.current.length < lineCapacity - 1 then
    { lines with current := lines.current ++ [byte] }
  else
    lines

def ofBytes (bytes : List UInt8) : Lines :=
  bytes.foldl type ⟨[], []⟩

/-- Every finished line, followed by a newline. -/
def text (lines : Lines) : List UInt8 :=
  lines.finished.flatMap fun line => line ++ [10]

/-- What an empty input queue takes of a line and its newline. -/
def taken (line : List UInt8) : List UInt8 :=
  (line ++ [10]).take (inputCapacity - 1)

/-- Every finished line, as far as the input queue takes it. -/
def takenText (lines : Lines) : List UInt8 :=
  lines.finished.flatMap taken

/-- Every finished line leaves room for its newline. -/
def Fit (lines : Lines) : Prop :=
  ∀ line ∈ lines.finished, line.length < lineCapacity - 1

@[simp] theorem ofBytes_append
    (bytes : List UInt8)
    (byte : UInt8) :
    ofBytes (bytes ++ [byte]) = (ofBytes bytes).type byte := by
  simp [ofBytes]

theorem taken_eq_iff
    (line : List UInt8) :
    taken line = line ++ [10] ↔ line.length < lineCapacity - 1 := by
  unfold taken
  rw [List.take_eq_self_iff, List.length_append, List.length_singleton]
  unfold inputCapacity lineCapacity
  omega

theorem length_taken_le
    (line : List UInt8) :
    (taken line).length ≤ (line ++ [10]).length :=
  List.length_take_le' _ _

theorem length_flatMap_taken_le
    (finished : List (List UInt8)) :
    (finished.flatMap taken).length ≤
      (finished.flatMap fun line => line ++ [10]).length := by
  induction finished with
  | nil =>
      simp
  | cons line rest inductionHypothesis =>
      have bound := length_taken_le line
      rw [List.flatMap_cons, List.flatMap_cons, List.length_append,
        List.length_append]
      omega

theorem takenText_eq_text_iff
    (lines : Lines) :
    lines.takenText = lines.text ↔ lines.Fit := by
  unfold takenText text Fit
  induction lines.finished with
  | nil =>
      simp
  | cons line rest inductionHypothesis =>
      have noLonger := length_flatMap_taken_le rest
      rw [List.flatMap_cons, List.flatMap_cons, List.forall_mem_cons,
        ← inductionHypothesis, ← taken_eq_iff]
      constructor
      · intro same
        have lengths := congrArg List.length same
        rw [List.length_append, List.length_append] at lengths
        have bound := length_taken_le line
        exact List.append_inj same (by omega)
      · rintro ⟨first, others⟩
        rw [first, others]

end Lines

/-! ## Runs without control keys -/

/-- The keyboard interrupt carries out a control key. -/
def IsControlKey (terminal : Terminal) (scancode : UInt8) : Prop :=
  terminal.modifiers.handled? scancode = none ∧
    terminal.modifiers.ctrl = true ∧
    (controlKey? terminal (keyCode scancode)).isSome = true

instance (terminal : Terminal) (scancode : UInt8) :
    Decidable (IsControlKey terminal scancode) :=
  inferInstanceAs (Decidable (_ ∧ _))

/-- A byte that ends the input or stands for a signal. -/
def IsControlByte (lflag : UInt32) (raw : UInt8) : Prop :=
  raw = 0x04 ∨
    (signalling lflag = true ∧ (interruptSignal raw).isSome = true)

instance (lflag : UInt32) (raw : UInt8) :
    Decidable (IsControlByte lflag raw) :=
  inferInstanceAs (Decidable (_ ∨ _))

/-- An event that carries out no control key. -/
def Plain (system : System) : Event → Prop
  | .key scancode => ¬ IsControlKey system.terminal scancode
  | .reader =>
      ∀ raw : UInt8,
        system.reader = .process raw →
        ¬ IsControlByte system.terminal.lflag raw
  | _ => True

theorem keyboardInterrupt_of_not_control
    {terminal : Terminal}
    {scancode : UInt8}
    (noControl : ¬ IsControlKey terminal scancode) :
    ∃ (modifiers : Modifiers)
        (scancodes : RingQueue UInt8 scancodeQueueSize),
      keyboardInterrupt terminal scancode =
        { terminal with
          modifiers := modifiers
          scancodes := scancodes } := by
  unfold keyboardInterrupt handleKeyboardInterrupt
  cases handled : terminal.modifiers.handled? scancode with
  | some modifiers =>
      exact ⟨modifiers, terminal.scancodes, rfl⟩
  | none =>
      have passed :
          (if terminal.modifiers.ctrl = true then
            controlKey? terminal (keyCode scancode)
          else none) = none := by
        split
        case isTrue held =>
          rw [← Option.not_isSome_iff_eq_none]
          exact fun carried => noControl ⟨handled, held, carried⟩
        case isFalse =>
          rfl
      simp only [passed]
      exact ⟨terminal.modifiers, terminal.scancodes.push scancode, rfl⟩

theorem interruptSignal_of_not_control
    {lflag : UInt32}
    {raw : UInt8}
    (noControl : ¬ IsControlByte lflag raw) :
    (if signalling lflag = true then interruptSignal raw else none) =
      none := by
  split
  case isTrue signals =>
    rw [← Option.not_isSome_iff_eq_none]
    exact fun isSignal => noControl (.inr ⟨signals, isSignal⟩)
  case isFalse =>
    rfl

/-! ## The invariant -/

/--
What was returned, what waits in the input queue and what is kept of the line,
by where the reader is.  The queue is empty whenever a byte is processed.
-/
def Delivers
    (reader : Reader)
    (returned processed waiting kept : List UInt8) :
    Prop :=
  let lines := Lines.ofBytes processed
  match reader with
  | .serial | .scancode | .translate _ | .process _ =>
      waiting = [] ∧ kept = lines.current ∧ returned = lines.takenText
  | .flush index stop =>
      lines.current = [] ∧ stop = kept.length ∧ waiting = kept.take index ∧
        ∃ earlier : List (List UInt8),
          lines.finished = earlier ++ [kept] ∧
            returned = earlier.flatMap Lines.taken
  | .newline =>
      lines.current = [] ∧ waiting = kept ∧
        ∃ earlier : List (List UInt8),
          lines.finished = earlier ++ [kept] ∧
            returned = earlier.flatMap Lines.taken
  | .clear =>
      lines.current = [] ∧ returned ++ waiting = lines.takenText
  | _ =>
      kept = lines.current ∧ returned ++ waiting = lines.takenText

/-- The invariant of canonical reads. -/
structure Delivering (system : System) : Prop where
  canonicalMode : canonical system.terminal.lflag = true
  delivers :
    Delivers system.reader system.returned system.processed
      system.terminal.input.contents system.terminal.kept

namespace Delivering

variable {system : System}

section

variable (holds : Delivering system)

include holds

theorem onTerminal
    {change : Terminal → Terminal}
    (sameFlags : (change system.terminal).lflag = system.terminal.lflag)
    (sameInput : (change system.terminal).input = system.terminal.input)
    (sameLine : (change system.terminal).kept = system.terminal.kept) :
    Delivering (system.onTerminal change) where
  canonicalMode := by
    unfold System.onTerminal
    rw [sameFlags]
    exact holds.canonicalMode
  delivers := by
    unfold System.onTerminal
    rw [sameInput, sameLine]
    exact holds.delivers

theorem check
    {next : Reader}
    (here : system.reader = .check ∨ system.reader = .recheck)
    (nextIs : next = .look ∨ next = .halt) :
    Delivering (system.check next) where
  canonicalMode := holds.canonicalMode
  delivers := by
    have before :
        system.terminal.kept = (Lines.ofBytes system.processed).current ∧
          system.returned ++ system.terminal.input.contents =
            (Lines.ofBytes system.processed).takenText := by
      have delivers := holds.delivers
      rcases here with here | here
      · rw [here] at delivers
        exact delivers
      · rw [here] at delivers
        exact delivers
    unfold System.check
    dsimp only
    cases found : (signalPendingUnblocked system.terminal).1 with
    | true =>
        exact before
    | false =>
        rcases nextIs with rfl | rfl
        · exact before
        · exact before

theorem popInput
    {next : Reader}
    (here :
      system.terminal.kept = (Lines.ofBytes system.processed).current ∧
        system.returned ++ system.terminal.input.contents =
          (Lines.ofBytes system.processed).takenText)
    (nextIs : next = .serial ∨ next = .again ∨ next = .check) :
    Delivering (system.popInput next) := by
  unfold System.popInput
  cases taken : system.terminal.input.pop with
  | none =>
      refine ⟨holds.canonicalMode, ?_⟩
      have nothingWaits := (RingQueue.pop_eq_none_iff _).mp taken
      rcases nextIs with rfl | rfl | rfl
      · rw [nothingWaits, List.append_nil] at here
        exact ⟨nothingWaits, here⟩
      · exact here
      · exact here
  | some pair =>
      obtain ⟨byte, rest⟩ := pair
      refine ⟨holds.canonicalMode, here.1, ?_⟩
      rw [RingQueue.contents_of_pop taken] at here
      simpa [System.give, System.onTerminal] using here.2

theorem processInputByte
    {raw : UInt8}
    (here : system.reader = .process raw)
    (noControl : ¬ IsControlByte system.terminal.lflag raw) :
    Delivering
      (System.processInputByte
        { system with processed := system.processed ++ [raw] } raw) := by
  have before := holds.delivers
  rw [here] at before
  obtain ⟨nothingWaits, keptIs, returnedIs⟩ := before
  have noSignal := interruptSignal_of_not_control noControl
  have notEof : raw ≠ 0x04 := fun isEof => noControl (.inl isEof)
  unfold System.processInputByte
  simp only [noSignal, holds.canonicalMode, Bool.true_eq_false, if_false]
  have stays :
      system.returned ++ system.terminal.input.contents =
        (Lines.ofBytes system.processed).finished.flatMap Lines.taken := by
    rw [nothingWaits, List.append_nil, returnedIs]
    rfl
  by_cases erases : raw = 0x08 ∨ raw = 0x7f
  · rw [if_pos erases]
    refine ⟨holds.canonicalMode, ?_⟩
    change
      system.terminal.erase.kept =
          (Lines.ofBytes (system.processed ++ [raw])).current ∧
        system.returned ++ system.terminal.input.contents =
          (Lines.ofBytes (system.processed ++ [raw])).takenText
    simp [Lines.type, Lines.takenText, erases, keptIs, stays]
  · rw [if_neg erases, if_neg notEof]
    by_cases ends : raw = 0x0d ∨ raw = 0x0a
    · rw [if_pos ends]
      refine ⟨holds.canonicalMode, ?_⟩
      change
        (Lines.ofBytes (system.processed ++ [raw])).current = [] ∧
          system.terminal.lineLen = system.terminal.kept.length ∧
          system.terminal.input.contents = [] ∧
          ∃ earlier : List (List UInt8),
            (Lines.ofBytes (system.processed ++ [raw])).finished =
                earlier ++ [system.terminal.kept] ∧
              system.returned = earlier.flatMap Lines.taken
      refine ⟨?_, (Terminal.length_kept _).symm, nothingWaits,
        (Lines.ofBytes system.processed).finished, ?_, returnedIs⟩
      · simp [Lines.type, erases, ends]
      · simp [Lines.type, erases, ends, keptIs]
    · rw [if_neg ends]
      refine ⟨?_, ?_⟩
      · simpa [System.goto, System.onTerminal] using holds.canonicalMode
      · change
          (system.terminal.keep raw).kept =
              (Lines.ofBytes (system.processed ++ [raw])).current ∧
            system.returned ++ (system.terminal.keep raw).input.contents =
              (Lines.ofBytes (system.processed ++ [raw])).takenText
        simp only [Lines.takenText, Lines.ofBytes_append, Lines.type, erases,
          ends, if_false, Terminal.kept_keep, Terminal.input_keep, keptIs]
        split <;> exact ⟨rfl, stays⟩

theorem flushStep
    {index stop : Nat}
    (here : system.reader = .flush index stop) :
    Delivering (system.flushStep index stop) := by
  have before := holds.delivers
  rw [here] at before
  obtain ⟨currentIs, stopIs, waitingIs, earlier, finishedIs, returnedIs⟩ :=
    before
  rw [Terminal.length_kept] at stopIs
  subst stopIs
  unfold System.flushStep
  by_cases inside : index < system.terminal.lineLen
  · rw [if_pos inside]
    refine ⟨holds.canonicalMode, currentIs, ?_, ?_, earlier, finishedIs,
      returnedIs⟩
    · exact (Terminal.length_kept _).symm
    · have fits : system.terminal.lineLen < inputCapacity :=
        system.terminal.lineFits
      have shortQueue :
          system.terminal.input.length = index := by
        rw [← RingQueue.length_contents, waitingIs, List.length_take,
          Terminal.length_kept]
        omega
      have room : system.terminal.input.length + 1 < inputCapacity := by
        omega
      change
        (system.terminal.input.push _).contents =
          system.terminal.kept.take (index + 1)
      rw [RingQueue.contents_push room, waitingIs,
        Terminal.take_kept inside]
  · rw [if_neg inside]
    refine ⟨holds.canonicalMode, currentIs, ?_, earlier, finishedIs,
      returnedIs⟩
    rw [System.goto, waitingIs, List.take_of_length_le]
    rw [Terminal.length_kept]
    omega

theorem newline
    (here : system.reader = .newline) :
    Delivering
      ((system.onTerminal fun terminal => terminal.pushInput 10).goto
        .clear) := by
  have before := holds.delivers
  rw [here] at before
  obtain ⟨currentIs, waitingIs, earlier, finishedIs, returnedIs⟩ := before
  refine ⟨holds.canonicalMode, currentIs, ?_⟩
  have fits : system.terminal.lineLen < inputCapacity :=
    system.terminal.lineFits
  have queueIs : system.terminal.input.length = system.terminal.lineLen := by
    rw [← RingQueue.length_contents, waitingIs, Terminal.length_kept]
  have pushed :
      (system.terminal.input.push 10).contents =
        Lines.taken system.terminal.kept := by
    unfold Lines.taken
    by_cases room : system.terminal.lineLen + 1 < inputCapacity
    · rw [RingQueue.contents_push (by omega), waitingIs,
        List.take_of_length_le]
      rw [List.length_append, Terminal.length_kept, List.length_singleton]
      omega
    · rw [RingQueue.push_of_full (by omega), waitingIs,
        List.take_left' (by rw [Terminal.length_kept]; omega)]
  change
    system.returned ++ (system.terminal.input.push 10).contents =
      (Lines.ofBytes system.processed).finished.flatMap Lines.taken
  rw [pushed, returnedIs, finishedIs, List.flatMap_append]
  simp

theorem translate
    {scancode : UInt8}
    (here : system.reader = .translate scancode) :
    Delivering (system.translate scancode) := by
  have before := holds.delivers
  rw [here] at before
  unfold System.translate
  obtain ⟨modifiers, byte⟩ :=
    keyboardAscii system.terminal.modifiers scancode
  cases byte with
  | some raw =>
      exact ⟨holds.canonicalMode, before⟩
  | none =>
      obtain ⟨nothingWaits, keptIs, returnedIs⟩ := before
      refine ⟨holds.canonicalMode, keptIs, ?_⟩
      change system.returned ++ system.terminal.input.contents = _
      rw [nothingWaits, List.append_nil, returnedIs]
      rfl

theorem readerStep
    (plain : Plain system .reader) :
    Delivering system.readerStep := by
  have before := holds.delivers
  unfold System.readerStep
  cases here : system.reader with
  | idle =>
      exact holds
  | check =>
      exact holds.check (.inl here) (.inl rfl)
  | look =>
      rw [here] at before
      exact holds.popInput before (.inl rfl)
  | serial =>
      rw [here] at before
      unfold System.serialReadByte
      cases system.terminal.serial with
      | nil =>
          exact ⟨holds.canonicalMode, before⟩
      | cons byte rest =>
          exact ⟨holds.canonicalMode, before⟩
  | scancode =>
      rw [here] at before
      unfold System.popScancode
      cases system.terminal.scancodes.pop with
      | none =>
          obtain ⟨nothingWaits, keptIs, returnedIs⟩ := before
          refine ⟨holds.canonicalMode, keptIs, ?_⟩
          change system.returned ++ system.terminal.input.contents = _
          rw [nothingWaits, List.append_nil, returnedIs]
          rfl
      | some pair =>
          exact ⟨holds.canonicalMode, before⟩
  | translate scancode =>
      exact holds.translate here
  | process raw =>
      exact holds.processInputByte here (plain raw here)
  | flush index stop =>
      exact holds.flushStep here
  | newline =>
      exact holds.newline here
  | clear =>
      rw [here] at before
      exact ⟨holds.canonicalMode, before.1.symm, before.2⟩
  | flushed =>
      rw [here] at before
      exact holds.popInput before (.inr (.inl rfl))
  | again =>
      rw [here] at before
      exact holds.popInput before (.inr (.inr rfl))
  | recheck =>
      exact holds.check (.inr here) (.inr rfl)
  | halt =>
      rw [here] at before
      exact ⟨holds.canonicalMode, before⟩

theorem step
    {event : Event}
    (plain : Plain system event) :
    Delivering (system.step event) := by
  cases event with
  | key scancode =>
      obtain ⟨modifiers, scancodes, after⟩ :=
        keyboardInterrupt_of_not_control plain
      change Delivering (system.onTerminal (keyboardInterrupt · scancode))
      have sameFlags := congrArg Terminal.lflag after
      have sameInput := congrArg Terminal.input after
      have sameLine := congrArg Terminal.kept after
      exact holds.onTerminal sameFlags sameInput sameLine
  | serial byte =>
      exact ⟨holds.canonicalMode, holds.delivers⟩
  | call =>
      unfold System.step
      cases here : system.reader with
      | idle =>
          have before := holds.delivers
          rw [here] at before
          exact ⟨holds.canonicalMode, before⟩
      | _ =>
          exact holds
  | reader =>
      exact holds.readerStep plain
  | kernel process pending =>
      exact ⟨holds.canonicalMode, holds.delivers⟩

end

end Delivering

/-! ## Every byte is processed in some run -/

/-- The reader waits for input, or is not called, and the queue is empty. -/
def Drained (system : System) : Prop :=
  (system.reader = .idle ∨ system.reader = .halt) ∧
    system.terminal.input.contents = []

/-- Nothing waits for the reader in the devices. -/
def NothingArrived (system : System) : Prop :=
  system.terminal.serial = [] ∧ system.terminal.scancodes.contents = []

/--
The reader alone can go on until everything it was given is returned, and
processes no further byte on the way.
-/
def Settles (system : System) : Prop :=
  ∃ events : List Event,
    Along Plain system events ∧
      Drained (system.run events) ∧
      NothingArrived (system.run events) ∧
      (system.run events).processed = system.processed ∧
      (system.run events).terminal.lflag = system.terminal.lflag

theorem check_of_nothing_pending
    {system : System}
    (nothing : system.terminal.pending = 0)
    (next : Reader) :
    system.check next = system.goto next := by
  have loop :
      ∀ signals : List UInt64,
        signalPendingUnblockedLoop system.terminal.process 0 signals 0 =
          (false, 0) := by
    intro signals
    induction signals with
    | nil =>
        rfl
    | cons signum rest inductionHypothesis =>
        rw [signalPendingUnblockedLoop, UInt64.zero_and, if_pos rfl,
          inductionHypothesis]
  unfold System.check signalPendingUnblocked
  rw [nothing, UInt64.zero_and, loop]
  simp [System.goto, ← nothing]

namespace Settles

variable {system : System}

theorem of_step
    (event : Event)
    (plain : Plain system event)
    (sameProcessed : (system.step event).processed = system.processed)
    (sameFlags :
      (system.step event).terminal.lflag = system.terminal.lflag)
    (later : Settles (system.step event)) :
    Settles system := by
  obtain ⟨events, along, drained, nothing, processedIs, flagsAre⟩ := later
  exact ⟨event :: events, ⟨plain, along⟩, drained, nothing,
    processedIs.trans sameProcessed, flagsAre.trans sameFlags⟩

theorem of_readerStep
    {next : System}
    (stepIs : system.readerStep = next)
    (notProcessing : ∀ raw : UInt8, system.reader ≠ .process raw)
    (sameProcessed : next.processed = system.processed)
    (sameFlags : next.terminal.lflag = system.terminal.lflag)
    (later : Settles next) :
    Settles system := by
  subst stepIs
  exact of_step .reader (fun raw here => absurd here (notProcessing raw))
    sameProcessed sameFlags later

theorem of_check
    {here next : Reader}
    (lookIs : ∀ looking : System,
      looking.reader = here →
      looking.readerStep = looking.check next)
    (notProcessing : ∀ raw : UInt8, here ≠ .process raw)
    (atHere : system.reader = here)
    (later :
      Settles
        ((system.step (.kernel system.terminal.process 0)).goto next)) :
    Settles system := by
  refine of_step (.kernel system.terminal.process 0) trivial rfl rfl ?_
  have stepIs :
      (system.step (.kernel system.terminal.process 0)).readerStep =
        (system.step (.kernel system.terminal.process 0)).goto next := by
    exact (lookIs (system.step (.kernel system.terminal.process 0))
      atHere).trans (check_of_nothing_pending rfl next)
  exact of_readerStep stepIs
    (fun raw same => notProcessing raw (atHere.symm.trans same)) rfl rfl
    later

theorem of_idle
    (here : system.reader = .idle)
    (nothing : NothingArrived system) :
    Settles system := by
  generalize amountIs : system.terminal.input.contents = bytes
  induction bytes generalizing system with
  | nil =>
      exact ⟨[], trivial, ⟨.inl here, amountIs⟩, nothing, rfl, rfl⟩
  | cons byte rest inductionHypothesis =>
      obtain ⟨queue, taken, restIs⟩ := RingQueue.pop_of_contents amountIs
      have called : system.step .call = system.goto .check := by
        unfold System.step
        rw [here]
      refine of_step .call trivial (by rw [called]; rfl)
        (by rw [called]; rfl) ?_
      rw [called]
      refine @of_check _ .check .look (fun looking atCheck => ?_)
        (by simp) rfl ?_
      · unfold System.readerStep
        rw [atCheck]
      · refine of_readerStep ?_ (by simp [System.goto]) ?_ ?_
          (@inductionHypothesis
            { system with
              terminal :=
                { system.terminal with
                  input := queue
                  pending := 0 }
              reader := .idle
              returned := system.returned ++ [byte] } rfl nothing restIs)
        · unfold System.readerStep System.popInput
          simp only [System.goto, System.step, System.onTerminal, taken]
          rfl
        · rfl
        · rfl

theorem of_popInput
    {next : Reader}
    (stepIs : system.readerStep = system.popInput next)
    (notProcessing : ∀ raw : UInt8, system.reader ≠ .process raw)
    (nothing : NothingArrived system)
    (later :
      system.terminal.input.contents = [] →
      Settles (system.goto next)) :
    Settles system := by
  unfold System.popInput at stepIs
  cases taken : system.terminal.input.pop with
  | none =>
      rw [taken] at stepIs
      exact of_readerStep stepIs notProcessing rfl rfl
        (later ((RingQueue.pop_eq_none_iff _).mp taken))
  | some pair =>
      rw [taken] at stepIs
      exact of_readerStep stepIs notProcessing rfl rfl (of_idle rfl nothing)

theorem of_recheck
    (here : system.reader = .recheck)
    (nothing : NothingArrived system)
    (nothingWaits : system.terminal.input.contents = []) :
    Settles system := by
  refine @of_check _ .recheck .halt (fun looking atCheck => ?_) (by simp)
    here ?_
  · unfold System.readerStep
    rw [atCheck]
  · exact ⟨[], trivial, ⟨.inr rfl, nothingWaits⟩, nothing, rfl, rfl⟩

theorem of_serial
    (here : system.reader = .serial)
    (nothing : NothingArrived system)
    (nothingWaits : system.terminal.input.contents = []) :
    Settles system := by
  have noScancode := (RingQueue.pop_eq_none_iff _).mpr nothing.2
  refine @of_readerStep _ (system.goto .scancode) ?_ (by simp [here]) rfl
    rfl ?_
  · unfold System.readerStep System.serialReadByte
    rw [here]
    simp only [nothing.1]
  · refine @of_readerStep _ (system.goto .recheck) ?_
      (by simp [System.goto]) rfl rfl (of_recheck rfl nothing nothingWaits)
    unfold System.readerStep System.popScancode System.goto
    simp only [noScancode]

theorem of_checking
    (here : system.reader = .check)
    (nothing : NothingArrived system) :
    Settles system := by
  refine @of_check _ .check .look (fun looking atCheck => ?_) (by simp)
    here ?_
  · unfold System.readerStep
    rw [atCheck]
  · exact @of_popInput _ .serial rfl (by simp [System.goto]) nothing
      fun nothingWaits => of_serial rfl nothing nothingWaits

theorem of_again
    (here : system.reader = .again)
    (nothing : NothingArrived system) :
    Settles system := by
  refine @of_popInput _ .check ?_ (by simp [here]) nothing
    fun _ => of_checking rfl nothing
  unfold System.readerStep
  rw [here]

theorem of_newline
    (here : system.reader = .newline)
    (nothing : NothingArrived system) :
    Settles system := by
  refine @of_readerStep _
    ((system.onTerminal fun terminal => terminal.pushInput 10).goto .clear)
    ?_ (by simp [here]) rfl rfl ?_
  · unfold System.readerStep
    rw [here]
  · refine of_readerStep rfl (by simp [System.goto]) rfl rfl ?_
    exact @of_popInput _ .again rfl
      (by simp [System.readerStep, System.goto]) nothing
      fun _ => of_again rfl nothing

theorem of_flush
    {index stop : Nat}
    (here : system.reader = .flush index stop)
    (nothing : NothingArrived system) :
    Settles system := by
  generalize leftIs : stop - index = left
  induction left generalizing system index with
  | zero =>
      refine @of_readerStep _ (system.goto .newline) ?_ (by simp [here]) rfl
        rfl (of_newline rfl nothing)
      unfold System.readerStep System.flushStep
      rw [here]
      exact if_neg (by omega)
  | succ left inductionHypothesis =>
      refine of_readerStep ?_ (by simp [here]) ?_ ?_
        (@inductionHypothesis
          ((system.onTerminal fun terminal =>
            terminal.pushInput (terminal.line index)).goto
              (.flush (index + 1) stop))
          (index + 1) rfl nothing (by omega))
      · unfold System.readerStep System.flushStep
        rw [here]
        exact if_pos (by omega)
      · rfl
      · rfl

end Settles

theorem settles_processInputByte
    {system : System}
    {raw : UInt8}
    (noControl : ¬ IsControlByte system.terminal.lflag raw)
    (nothing : NothingArrived system) :
    Settles (system.processInputByte raw) ∧
      (system.processInputByte raw).processed = system.processed ∧
      (system.processInputByte raw).terminal.lflag =
        system.terminal.lflag := by
  have notEof : raw ≠ 0x04 := fun isEof => noControl (.inl isEof)
  unfold System.processInputByte
  simp only [interruptSignal_of_not_control noControl]
  split
  case isTrue =>
    exact ⟨Settles.of_idle rfl nothing, rfl, rfl⟩
  case isFalse =>
    split
    case isTrue =>
      exact ⟨Settles.of_again rfl nothing, rfl, rfl⟩
    case isFalse =>
      split
      case isTrue =>
        exact ⟨Settles.of_flush rfl nothing, rfl, rfl⟩
      case isFalse =>
        have stillNothing :
            NothingArrived
              (system.onTerminal fun terminal => terminal.keep raw) := by
          simpa [NothingArrived, System.onTerminal] using nothing
        refine ⟨Settles.of_again rfl stillNothing, rfl, ?_⟩
        simp [System.goto, System.onTerminal]

/-- Some run without control keys leads to a goal. -/
def Leads (system : System) (goal : System → Prop) : Prop :=
  ∃ events : List Event,
    Along Plain system events ∧ goal (system.run events)

theorem Leads.of_step
    {system next : System}
    {goal : System → Prop}
    (event : Event)
    (stepIs : system.step event = next)
    (plain : Plain system event)
    (later : Leads next goal) :
    Leads system goal := by
  subst stepIs
  obtain ⟨events, along, reached⟩ := later
  exact ⟨event :: events, ⟨plain, along⟩, reached⟩

theorem Leads.trans
    {system : System}
    {middle goal : System → Prop}
    (first : Leads system middle)
    (second : ∀ reached : System, middle reached → Leads reached goal) :
    Leads system goal := by
  obtain ⟨events, along, reached⟩ := first
  induction events generalizing system with
  | nil =>
      exact second system reached
  | cons event rest inductionHypothesis =>
      exact Leads.of_step event rfl along.1
        (inductionHypothesis along.2 reached)

/-- Everything was returned, and some bytes were processed on the way. -/
def Processed
    (system : System)
    (bytes : List UInt8)
    (last : System) :
    Prop :=
  Drained last ∧ NothingArrived last ∧
    last.processed = system.processed ++ bytes ∧
    last.terminal.lflag = system.terminal.lflag

theorem leads_processed
    {system : System}
    {raw : UInt8}
    (noControl : ¬ IsControlByte system.terminal.lflag raw)
    (drained : Drained system)
    (nothing : NothingArrived system) :
    Leads system (Processed system [raw]) := by
  let arrived : System :=
    system.onTerminal fun terminal =>
      { terminal with serial := terminal.serial ++ [raw] }
  let quieted : System :=
    arrived.onTerminal fun terminal => { terminal with pending := 0 }
  let taken : System :=
    (system.onTerminal fun terminal =>
      { terminal with
        serial := []
        pending := 0 }).goto (.process raw)
  have noInput := (RingQueue.pop_eq_none_iff _).mpr drained.2
  have processing :
      Leads taken (Processed system [raw]) := by
    obtain ⟨settles, processedIs, flagsAre⟩ :=
      @settles_processInputByte
        { taken with processed := taken.processed ++ [raw] } raw noControl
        ⟨rfl, nothing.2⟩
    obtain ⟨events, along, done, empty, sameProcessed, sameFlags⟩ := settles
    refine ⟨.reader :: events, ⟨?_, along⟩, done, empty,
      sameProcessed.trans processedIs, sameFlags.trans flagsAre⟩
    intro other here
    obtain rfl : raw = other := Reader.process.inj here
    exact noControl
  have reading : Leads (quieted.goto .check) (Processed system [raw]) := by
    refine Leads.of_step .reader
      (check_of_nothing_pending rfl .look) (by simp [Plain, System.goto]) ?_
    refine @Leads.of_step _ (quieted.goto .serial) _ .reader ?_
      (by simp [Plain, System.goto]) ?_
    · have popped :
          (quieted.goto .look).popInput .serial = quieted.goto .serial := by
        unfold System.popInput
        rw [show (quieted.goto .look).terminal.input.pop = none from noInput]
        rfl
      exact popped
    · refine @Leads.of_step _ taken _ .reader ?_
        (by simp [Plain, System.goto]) processing
      have onlyByte : quieted.terminal.serial = [raw] := by
        change system.terminal.serial ++ [raw] = [raw]
        rw [nothing.1, List.nil_append]
      simp only [System.step, System.readerStep, System.goto,
        System.serialReadByte, onlyByte]
      rfl
  refine @Leads.of_step _ arrived _ (.serial raw) rfl trivial ?_
  refine @Leads.of_step _ quieted _
    (.kernel system.terminal.process 0) rfl trivial ?_
  rcases drained.1 with idle | halted
  · have here : quieted.reader = .idle := idle
    refine Leads.of_step .call ?_ trivial reading
    unfold System.step
    rw [here]
  · have here : quieted.reader = .halt := halted
    refine Leads.of_step .reader ?_ (by simp [Plain, here]) reading
    unfold System.step System.readerStep
    rw [here]

theorem leads_processed_all
    (bytes : List UInt8)
    {system : System}
    (noControl :
      ∀ raw ∈ bytes, ¬ IsControlByte system.terminal.lflag raw)
    (drained : Drained system)
    (nothing : NothingArrived system) :
    Leads system (Processed system bytes) := by
  induction bytes generalizing system with
  | nil =>
      exact ⟨[], trivial, drained, nothing, (List.append_nil _).symm, rfl⟩
  | cons raw rest inductionHypothesis =>
      refine (leads_processed (noControl raw (by simp)) drained
        nothing).trans ?_
      rintro reached ⟨reachedDrained, reachedNothing, processedIs, flagsAre⟩
      obtain ⟨events, along, last, empty, allProcessed, sameFlags⟩ :=
        @inductionHypothesis reached
          (fun other member => by
            rw [flagsAre]
            exact noControl other (List.mem_cons_of_mem _ member))
          reachedDrained reachedNothing
      refine ⟨events, along, last, empty, ?_, sameFlags.trans flagsAre⟩
      rw [allProcessed, processedIs, List.append_assoc,
        List.singleton_append]

/-! ## Lines of every length -/

/-- Empty buffers, with no call under way. -/
structure Fresh (system : System) : Prop where
  drained : Drained system
  nothing : NothingArrived system
  noLine : system.terminal.lineLen = 0
  noneReturned : system.returned = []
  noneProcessed : system.processed = []

namespace Fresh

variable {start : System}

theorem delivering
    (fresh : Fresh start)
    (canonicalMode : canonical start.terminal.lflag = true) :
    Delivering start where
  canonicalMode := canonicalMode
  delivers := by
    have nothingKept : start.terminal.kept = [] := by
      rw [← List.length_eq_zero_iff, Terminal.length_kept, fresh.noLine]
    have nothing :
        start.terminal.kept = (Lines.ofBytes start.processed).current ∧
          start.returned ++ start.terminal.input.contents =
            (Lines.ofBytes start.processed).takenText := by
      rw [nothingKept, fresh.drained.2, fresh.noneReturned,
        fresh.noneProcessed]
      exact ⟨rfl, rfl⟩
    rcases fresh.drained.1 with here | here
    · rw [here]
      exact nothing
    · rw [here]
      exact nothing

theorem returned_eq
    (fresh : Fresh start)
    (canonicalMode : canonical start.terminal.lflag = true)
    {events : List Event}
    (plain : Along Plain start events)
    (drained : Drained (start.run events)) :
    (start.run events).returned =
      (Lines.ofBytes (start.run events).processed).takenText := by
  have holds : Delivering (start.run events) :=
    plain.invariant
      (fun _ _ allowed before => Delivering.step before allowed)
      (fresh.delivering canonicalMode)
  have delivers := holds.delivers
  rcases drained.1 with here | here <;>
    · rw [here, drained.2] at delivers
      obtain ⟨-, returnedIs⟩ := delivers
      rwa [List.append_nil] at returnedIs

end Fresh

/--
A run without control keys returns every line with its newline exactly when
every line leaves room for its newline, and there is such a run for all bytes.
-/
theorem lines_delivered
    {start : System}
    (fresh : Fresh start)
    (canonicalMode : canonical start.terminal.lflag = true) :
    (∀ events : List Event,
      Along Plain start events →
      Drained (start.run events) →
      ((start.run events).returned =
          (Lines.ofBytes (start.run events).processed).text ↔
        (Lines.ofBytes (start.run events).processed).Fit)) ∧
    ∀ bytes : List UInt8,
      (∀ raw ∈ bytes, ¬ IsControlByte start.terminal.lflag raw) →
      ∃ events : List Event,
        Along Plain start events ∧
          Drained (start.run events) ∧
          (start.run events).processed = bytes := by
  constructor
  · intro events plain drained
    rw [fresh.returned_eq canonicalMode plain drained]
    exact Lines.takenText_eq_text_iff _
  · intro bytes noControl
    obtain ⟨events, along, drained, -, processedIs, -⟩ :=
      leads_processed_all bytes noControl fresh.drained fresh.nothing
    rw [fresh.noneProcessed, List.nil_append] at processedIs
    exact ⟨events, along, drained, processedIs⟩

/-- The terminal as it is set up; `LFLAG` is `ICANON | ECHO | ISIG`. -/
def Terminal.initial : Terminal where
  input := RingQueue.emptyAt 0 0 (Nat.succ_pos _)
  line := fun _ => 0
  lineLen := 0
  lineFits := Nat.succ_pos _
  lflag := 0x0b
  modifiers := ⟨false, false, false⟩
  serial := []
  scancodes := RingQueue.emptyAt 0 0 (Nat.succ_pos _)
  process := Signals.ProcessState.new
  pending := 0
  raised := []

/-- The terminal as it is set up, before any call. -/
def System.initial : System where
  terminal := Terminal.initial
  reader := .idle
  returned := []
  processed := []

theorem fresh_initial : Fresh System.initial where
  drained := ⟨.inl rfl, RingQueue.contents_emptyAt _ _⟩
  nothing := ⟨rfl, RingQueue.contents_emptyAt _ _⟩
  noLine := rfl
  noneReturned := rfl
  noneProcessed := rfl

/-- A line of which a byte was erased is returned with its newline. -/
theorem short_line_delivered :
    ∃ events : List Event,
      Along Plain System.initial events ∧
        Drained (System.initial.run events) ∧
        (System.initial.run events).returned = [0x68, 0x69, 0x0a] := by
  obtain ⟨returnsText, exists_run⟩ :=
    lines_delivered fresh_initial (by decide)
  have noControl :
      ∀ raw ∈ [0x68, 0x78, 0x7f, 0x69, (0x0d : UInt8)],
        ¬ IsControlByte System.initial.terminal.lflag raw := by
    intro raw member
    simp only [List.mem_cons, List.not_mem_nil, or_false] at member
    rcases member with rfl | rfl | rfl | rfl | rfl <;> decide
  obtain ⟨events, plain, drained, processedIs⟩ := exists_run _ noControl
  refine ⟨events, plain, drained, ?_⟩
  have fit : (Lines.ofBytes (System.initial.run events).processed).Fit := by
    rw [processedIs]
    unfold Lines.Fit
    decide
  rw [(returnsText events plain drained).mpr fit, processedIs]
  decide

theorem ofBytes_replicate
    {amount : Nat}
    (fits : amount ≤ lineCapacity - 1) :
    Lines.ofBytes (List.replicate amount 0x61) =
      ⟨[], List.replicate amount 0x61⟩ := by
  induction amount with
  | zero =>
      rfl
  | succ less inductionHypothesis =>
      rw [List.replicate_succ', Lines.ofBytes_append,
        inductionHypothesis (by omega)]
      simp [Lines.type]
      omega

/-- A line that keeps 4095 bytes loses its newline. -/
theorem newline_lost :
    ∃ events : List Event,
      Along Plain System.initial events ∧
        Drained (System.initial.run events) ∧
        (System.initial.run events).processed =
          List.replicate 4095 0x61 ++ [0x0a] ∧
        (System.initial.run events).returned = List.replicate 4095 0x61 ∧
        (System.initial.run events).returned ≠
          (Lines.ofBytes (System.initial.run events).processed).text := by
  have noControl :
      ∀ raw ∈ List.replicate 4095 (0x61 : UInt8) ++ [0x0a],
        ¬ IsControlByte System.initial.terminal.lflag raw := by
    intro raw member
    rcases List.mem_append.mp member with isLetter | isNewline
    · rw [List.eq_of_mem_replicate isLetter]
      decide
    · rw [List.mem_singleton.mp isNewline]
      decide
  obtain ⟨events, along, drained, -, processedIs, -⟩ :=
    leads_processed_all _ noControl fresh_initial.drained
      fresh_initial.nothing
  have processedAre :
      (System.initial.run events).processed =
        List.replicate 4095 0x61 ++ [0x0a] :=
    processedIs
  have linesAre :
      Lines.ofBytes (System.initial.run events).processed =
        ⟨[List.replicate 4095 0x61], []⟩ := by
    rw [processedAre, Lines.ofBytes_append,
      ofBytes_replicate (by decide)]
    rfl
  have returnedIs :
      (System.initial.run events).returned = List.replicate 4095 0x61 := by
    rw [fresh_initial.returned_eq (by decide) along drained, linesAre,
      Lines.takenText, List.flatMap_singleton]
    exact List.take_left' List.length_replicate
  refine ⟨events, along, drained, processedAre, returnedIs, ?_⟩
  rw [fresh_initial.returned_eq (by decide) along drained, ne_eq,
    Lines.takenText_eq_text_iff, linesAre]
  intro fit
  have short := fit _ (List.mem_singleton_self _)
  rw [List.length_replicate] at short
  exact absurd short (by decide)

end VibuxOS.Tty
