import VibuxOS.Files.Descriptors
import VibuxOS.Signals.SignalSets

namespace VibuxOS.Files

open VibuxOS.Lib

/-!
# What a failing read has taken

Pipes, sockets, files and the disk copy first and move on afterwards.  Event
counters, timers and signal descriptors take their item first, and then look at
the size of the buffer and copy; the terminal takes a character first and then
copies it.  So those reads lose what they have taken when they fail later.
-/

variable (count : Nat)

/-- Everything that a read can consume is as it was. -/
structure Untouched (before after : State) : Prop where
  eventFds : after.eventFds = before.eventFds
  timerFds : after.timerFds = before.timerFds
  pending : after.pending = before.pending
  pipeBuffers : after.pipeBuffers = before.pipeBuffers
  terminal : after.terminal = before.terminal
  positions : ∀ index, (after.fds index).position = (before.fds index).position

theorem Untouched.refl (state : State) : Untouched state state :=
  ⟨rfl, rfl, rfl, rfl, rfl, fun _ => rfl⟩

/-- A read that fails leaves everything as it was. -/
def ConsumesNothing
    (program : Sys (List UInt8))
    (state : State) : Prop :=
  ∀ error final,
    program state = .err error final →
    Untouched state final

/-! ## Where an item is taken before the read fails -/

/-- An event counter that is not zero, and no room for its value. -/
def EventTaken
    (world : World)
    (state : State)
    (fd : Fd)
    (count : Nat) : Prop :=
  fd.id < eventfdMax ∧
    (state.eventFds fd.id).used = true ∧
    (state.eventFds fd.id).counter ≠ 0 ∧
    (count < 8 ∨ world.copied 0 8 = false)

/--
An expired timer, and no room for the number of its expirations; its expiry
moves unless the intervals add up to a multiple of 2^64.
-/
def TimerTaken
    (world : World)
    (state : State)
    (fd : Fd)
    (count : Nat) : Prop :=
  fd.id < timerfdMax ∧
    (state.timerFds fd.id).used = true ∧
    (state.timerFds fd.id).armed = true ∧
    ¬ world.nowNs < (state.timerFds fd.id).expiresNs ∧
    (count < 8 ∨ world.copied 0 8 = false) ∧
    ((state.timerFds fd.id).intervalNs ≠ 0 →
      expirations (state.timerFds fd.id) world.nowNs *
          (state.timerFds fd.id).intervalNs ≠
        0)

/-- A pending signal of the set, and no room for its record. -/
def SignalTaken
    (world : World)
    (state : State)
    (fd : Fd)
    (count : Nat) : Prop :=
  fd.id < signalfdMax ∧
    (state.signalFds fd.id).used = true ∧
    state.pending &&& (state.signalFds fd.id).mask ≠ 0 ∧
    (count < 128 ∨ world.copied 0 128 = false)

/-- The pending signals that are not blocked. -/
def unblocked (state : State) : UInt64 :=
  state.pending &&& ~~~state.process.signalMask

/-- A signal of a set is pending and has an action that does not ignore it. -/
def heededIn (state : State) (set : UInt64) (signum : UInt64) : Bool :=
  set &&& Signals.signalBit signum != 0 &&
    !(state.process.signalActions (signum - 1).toNat).ignores signum

/-- Some signal interrupts a read of the terminal. -/
def interrupts (state : State) : Bool :=
  signalNumbers.any (heededIn state (unblocked state))

/-- The lowest pending signal is one that its action ignores. -/
def discards (state : State) : Bool :=
  (Signals.lowestSignal (unblocked state)).any fun signum =>
    (state.process.signalActions (signum - 1).toNat).ignores signum

/--
A terminal that waits for input: a signal interrupts it and an ignored one is
dropped before, or the character it takes cannot be copied, or a signal that
its input stands for interrupts it.
-/
def TerminalTaken
    (world : World)
    (state : State)
    (fd : Fd) : Prop :=
  ¬ (fd.flags &&& Syscall.oNonblock ≠ 0 ∧ world.serialReady = false) ∧
    (interrupts state = true ∧ discards state = true ∨
      interrupts state = false ∧
        ∃ byte after,
          readByte state = .ok byte after ∧
            (byte ≠ 0 → world.copied 0 1 = false) ∧
            (byte = 0 → interrupts after = true))

/-- The kinds of descriptors whose reads take first, and fail afterwards. -/
def KindTaken
    (world : World)
    (state : State)
    (fd : Fd)
    (count : Nat) : Prop :=
  match fd.kind with
  | .eventFd => EventTaken world state fd count
  | .timerFd => TimerTaken world state fd count
  | .signalFd => SignalTaken world state fd count
  | .tty => TerminalTaken world state fd
  | _ => False

/-- A read that takes an item and fails afterwards. -/
def TakenFirst
    (world : World)
    (state : State)
    (fdNumber : Int)
    (count : Nat) : Prop :=
  0 ≤ fdNumber ∧ fdNumber < Syscall.fileFdMax ∧ count ≠ 0 ∧
    (state.fds fdNumber.toNat).used = true ∧
    fdReadable (state.fds fdNumber.toNat) = true ∧
    KindTaken world state (state.fds fdNumber.toNat) count

/-! ## Reads that copy first -/

/-- A program whose error exit leaves the state alone. -/
def FailsClean
    {α : Type}
    (program : Sys α) : Prop :=
  ∀ state error final,
    program state = .err error final →
    final = state

namespace FailsClean

variable {α β : Type}

theorem of_readOnly
    {program : Sys α}
    (reads : Prog.ReadOnly program) :
    FailsClean program :=
  fun _ _ _ failed => reads.2 failed

theorem of_neverFails
    {program : Sys α}
    (returns : Prog.NeverFails program) :
    FailsClean program :=
  fun state error final failed => absurd failed (returns state error final)

theorem bind
    {first : Sys α}
    {next : α → Sys β}
    (firstReads : Prog.ReadOnly first)
    (nextClean : ∀ value, FailsClean (next value)) :
    FailsClean (first >>= next) := by
  intro state error final failed
  rcases firstReads.of_bind_err failed with
      ⟨_, isFinal⟩ | ⟨value, _, later⟩
  · exact isFinal
  · exact nextClean value state error final later

theorem ite
    {condition : Prop}
    [Decidable condition]
    {yes no : Sys α}
    (yesClean : FailsClean yes)
    (noClean : FailsClean no) :
    FailsClean (if condition then yes else no) := by
  split
  · exact yesClean
  · exact noClean

theorem consumesNothing
    {program : Sys (List UInt8)}
    (clean : FailsClean program)
    (state : State) :
    ConsumesNothing program state := by
  intro error final failed
  rw [clean state error final failed]
  exact Untouched.refl state

end FailsClean

theorem readOnly_fdSnapshot
    (fdNumber : Int) :
    Prog.ReadOnly (fdSnapshot fdNumber) := by
  apply Prog.ReadOnly.ite (.fail _)
  apply Prog.ReadOnly.bind (.gets _)
  intro fd
  exact Prog.ReadOnly.ite (.pure _) (.fail _)

theorem readOnly_copyUserOut
    (world : World)
    (offset : Nat)
    (bytes : List UInt8) :
    Prog.ReadOnly (copyUserOut world offset bytes) :=
  Prog.ReadOnly.ite (.pure _) (.fail _)

theorem failsClean_copyThen
    {world : World}
    {offset : Nat}
    {bytes result : List UInt8}
    {change : State → State} :
    FailsClean (do
      copyUserOut world offset bytes
      Prog.modify change
      pure result) := by
  apply FailsClean.bind (readOnly_copyUserOut _ _ _)
  intro _
  exact FailsClean.of_neverFails (.bind (.modify _) fun _ => .pure _)

section

variable
  (world : World)
  (fdNumber : Int)

theorem failsClean_pipeReadFd :
    FailsClean (pipeReadFd world fdNumber count) := by
  apply FailsClean.ite (.of_readOnly (.pure _))
  apply FailsClean.bind (readOnly_fdSnapshot _)
  intro fd
  apply FailsClean.ite (.of_readOnly (.fail _))
  apply FailsClean.bind (.gets _)
  intro state
  split
  · exact .of_readOnly (.fail _)
  · apply FailsClean.ite
    · exact .ite (.of_readOnly (.fail _)) (.of_readOnly (.pure _))
    · exact failsClean_copyThen

theorem failsClean_socketReadFd :
    FailsClean (socketReadFd world fdNumber count) := by
  apply FailsClean.bind (readOnly_fdSnapshot _)
  intro fd
  apply FailsClean.ite (.of_readOnly (.fail _))
  apply FailsClean.bind (.gets _)
  intro state
  split
  · exact .of_readOnly (.fail _)
  · apply FailsClean.ite
    · exact .ite (.of_readOnly (.fail _)) (.of_readOnly (.pure _))
    · exact failsClean_copyThen

theorem failsClean_ramFileRead :
    FailsClean (ramFileRead world fdNumber count) := by
  apply FailsClean.bind (readOnly_fdSnapshot _)
  intro fd
  apply FailsClean.bind (.gets _)
  intro state
  split
  · exact .of_readOnly (.fail _)
  · apply FailsClean.ite (.of_readOnly (.pure _))
    apply FailsClean.ite
    · exact .ite (.of_readOnly (.fail _)) (.of_readOnly (.pure _))
    · exact .of_neverFails (.bind (.modify _) fun _ => .pure _)

theorem failsClean_fixedRead
    (fd : Fd)
    (contents : Option (List UInt8))
    (count : Nat) :
    FailsClean (fixedRead world fdNumber fd contents count) := by
  cases contents with
  | none =>
      exact .of_readOnly (.fail _)
  | some data =>
      apply FailsClean.ite
      · exact .of_neverFails (.bind (.modify _) fun _ => .pure _)
      · exact .of_readOnly (.fail _)

end

theorem readOnly_blockReadLoop
    (world : World)
    (count fuel : Nat)
    (cursor : UInt64)
    (written : List UInt8) :
    Prog.ReadOnly (blockReadLoop world count fuel cursor written) := by
  induction fuel generalizing cursor written with
  | zero =>
      exact .hang
  | succ fuel inductionHypothesis =>
      apply Prog.ReadOnly.ite
      · dsimp only
        split
        · exact .pure _
        · apply Prog.ReadOnly.bind (readOnly_copyUserOut _ _ _)
          intro _
          exact inductionHypothesis _ _
      · exact .pure _

theorem failsClean_blockRead
    (world : World)
    (fdNumber : Int)
    (fd : Fd)
    (count : Nat) :
    FailsClean (blockRead world fdNumber fd count) := by
  apply FailsClean.bind (readOnly_blockReadLoop _ _ _ _ _)
  intro result
  exact FailsClean.of_neverFails (.bind (.modify _) fun _ => .pure _)

/-! ## Event counters -/

theorem length_leBytes
    (value : UInt64)
    (width : Nat) :
    (leBytes value width).length = width := by
  unfold leBytes
  rw [List.length_map, List.length_range]

theorem copyUserOut_eq
    (world : World)
    (offset : Nat)
    (bytes : List UInt8)
    (state : State) :
    (copyUserOut world offset bytes >>= fun _ => pure bytes) state =
      if world.copied offset bytes.length then
        .ok bytes state
      else
        .err .efault state := by
  unfold copyUserOut
  split <;> rfl

theorem consumesNothing_late_iff
    {world : World}
    {count room : Nat}
    {bytes : List UInt8}
    (length : bytes.length = room)
    {change : State → State}
    (state : State) :
    ConsumesNothing
        (Prog.modify change >>= fun _ =>
          if count < room then
            Prog.fail .einval
          else
            copyUserOut world 0 bytes >>= fun _ => pure bytes)
        state ↔
      (count < room ∨ world.copied 0 room = false →
        Untouched state (change state)) := by
  unfold ConsumesNothing
  simp only [Prog.modify_bind_apply]
  by_cases short : count < room
  · rw [if_pos short]
    constructor
    · intro consumes _
      exact consumes _ _ rfl
    · intro consumes error final failed
      cases failed
      exact consumes (Or.inl short)
  · rw [if_neg short, copyUserOut_eq, length]
    cases copied : world.copied 0 room with
    | true =>
        constructor
        · intro _ late
          rcases late with less | missing
          · exact absurd less short
          · cases missing
        · intro _ error final failed
          cases failed
    | false =>
        constructor
        · intro consumes _
          exact consumes _ _ rfl
        · intro consumes error final failed
          cases failed
          exact consumes (Or.inr rfl)

theorem consumesNothing_iff_of_clean
    {program : Sys (List UInt8)}
    {state : State}
    {taken : Prop}
    (clean : FailsClean program)
    (notTaken : ¬ taken) :
    ConsumesNothing program state ↔ ¬ taken :=
  ⟨fun _ => notTaken, fun _ => clean.consumesNothing state⟩

theorem eventFds_setEventFd_ne
    {state : State}
    {id : Nat}
    {event : EventFdState}
    (differs : event ≠ state.eventFds id) :
    ¬ Untouched state (state.setEventFd id event) := by
  intro untouched
  apply differs
  have same :
      Function.update state.eventFds id event id = state.eventFds id :=
    congrFun untouched.eventFds id
  rwa [Function.update_self] at same

theorem eventFdRead_consumesNothing_iff
    (world : World)
    (state : State)
    (fd : Fd)
    (count : Nat) :
    ConsumesNothing (eventFdRead world fd count) state ↔
      ¬ EventTaken world state fd count := by
  unfold eventFdRead EventTaken
  by_cases outside : fd.id ≥ eventfdMax
  · rw [if_pos outside]
    exact
      consumesNothing_iff_of_clean (.of_readOnly .hang)
        fun taken => absurd taken.1 (Nat.not_lt.mpr outside)
  · rw [if_neg outside]
    unfold ConsumesNothing
    simp only [Prog.gets_bind_apply]
    change ConsumesNothing _ state ↔ _
    by_cases unused : (state.eventFds fd.id).used = false
    · rw [if_pos unused]
      refine consumesNothing_iff_of_clean (.of_readOnly (.fail _)) ?_
      rintro ⟨_, used, _⟩
      rw [unused] at used
      cases used
    · rw [if_neg unused]
      by_cases zero : (state.eventFds fd.id).counter = 0
      · rw [if_pos zero]
        exact
          consumesNothing_iff_of_clean
            (.ite (.of_readOnly (.fail _)) (.of_readOnly (.pure _)))
            fun taken => absurd zero taken.2.2.1
      · rw [if_neg zero]
        rw [consumesNothing_late_iff (length_leBytes _ 8)]
        have touched :
            ¬ Untouched state
              (state.setEventFd fd.id
                { state.eventFds fd.id with
                  counter :=
                    (state.eventFds fd.id).counter -
                      if (state.eventFds fd.id).semaphore then 1
                      else (state.eventFds fd.id).counter }) := by
          apply eventFds_setEventFd_ne
          intro same
          have counters := congrArg EventFdState.counter same
          dsimp only at counters
          split at counters
          · exact absurd counters (by grind)
          · exact absurd counters (by grind)
        constructor
        · intro consumes taken
          exact touched (consumes taken.2.2.2)
        · intro notTaken late
          refine absurd ?_ notTaken
          exact
            ⟨Nat.lt_of_not_le outside, Bool.not_eq_false _ ▸ unused, zero,
              late⟩

/-! ## Timers -/

theorem fired_eq_iff
    {timer : TimerFdState}
    (armed : timer.armed = true)
    (nowNs : UInt64) :
    timer.fired nowNs = timer ↔
      timer.intervalNs ≠ 0 ∧
        expirations timer nowNs * timer.intervalNs = 0 := by
  unfold TimerFdState.fired
  by_cases periodic : timer.intervalNs ≠ 0
  · rw [if_pos periodic]
    constructor
    · intro same
      have expires := congrArg TimerFdState.expiresNs same
      dsimp only at expires
      exact ⟨periodic, by grind⟩
    · rintro ⟨_, zero⟩
      rw [zero, UInt64.add_zero]
  · rw [if_neg periodic]
    constructor
    · intro same
      have disarmed := congrArg TimerFdState.armed same
      rw [armed] at disarmed
      cases disarmed
    · rintro ⟨again, _⟩
      exact absurd again periodic

theorem untouched_setTimerFd_iff
    {state : State}
    {id : Nat}
    {timer : TimerFdState} :
    Untouched state (state.setTimerFd id timer) ↔
      timer = state.timerFds id := by
  constructor
  · intro untouched
    have same :
        Function.update state.timerFds id timer id = state.timerFds id :=
      congrFun untouched.timerFds id
    rwa [Function.update_self] at same
  · rintro rfl
    unfold State.setTimerFd
    rw [Function.update_eq_self]
    exact Untouched.refl state

theorem timerFdRead_consumesNothing_iff
    (world : World)
    (state : State)
    (fd : Fd)
    (count : Nat) :
    ConsumesNothing (timerFdRead world fd count) state ↔
      ¬ TimerTaken world state fd count := by
  unfold timerFdRead TimerTaken
  by_cases outside : fd.id ≥ timerfdMax
  · rw [if_pos outside]
    exact
      consumesNothing_iff_of_clean (.of_readOnly .hang)
        fun taken => absurd taken.1 (Nat.not_lt.mpr outside)
  · rw [if_neg outside]
    unfold ConsumesNothing
    simp only [Prog.gets_bind_apply]
    change ConsumesNothing _ state ↔ _
    by_cases unused : (state.timerFds fd.id).used = false
    · rw [if_pos unused]
      refine consumesNothing_iff_of_clean (.of_readOnly (.fail _)) ?_
      rintro ⟨_, used, _⟩
      rw [unused] at used
      cases used
    · rw [if_neg unused]
      by_cases disarmed : (state.timerFds fd.id).armed = false
      · rw [if_pos disarmed]
        refine
          consumesNothing_iff_of_clean
            (.ite (.of_readOnly (.fail _)) (.of_readOnly (.pure _))) ?_
        rintro ⟨_, _, armed, _⟩
        rw [disarmed] at armed
        cases armed
      · rw [if_neg disarmed]
        rw [Bool.not_eq_false] at unused disarmed
        by_cases early : world.nowNs < (state.timerFds fd.id).expiresNs
        · rw [if_pos early]
          exact
            consumesNothing_iff_of_clean (.of_readOnly (.fail _))
              fun taken => taken.2.2.2.1 early
        · rw [if_neg early, consumesNothing_late_iff (length_leBytes _ 8),
            untouched_setTimerFd_iff, fired_eq_iff disarmed]
          constructor
          · rintro consumes ⟨_, _, _, _, late, moves⟩
            obtain ⟨periodic, wraps⟩ := consumes late
            exact moves periodic wraps
          · intro notTaken late
            by_contra moves
            refine
              notTaken
                ⟨Nat.lt_of_not_le outside, unused, disarmed, early, late, ?_⟩
            intro periodic wraps
            exact moves ⟨periodic, wraps⟩

/-! ## Signals -/

theorem touched_clearPending
    {state : State}
    {signum : UInt64}
    (set : state.pending &&& Signals.signalBit signum ≠ 0) :
    ¬ Untouched state (state.clearPending signum) := by
  intro untouched
  apply set
  have same :
      state.pending &&& ~~~Signals.signalBit signum = state.pending :=
    untouched.pending
  rw [← same]
  exact and_not_and _ _

theorem and_ne_zero_of_and_and
    {set mask bit : UInt64}
    (inside : set &&& mask &&& bit ≠ 0) :
    set &&& bit ≠ 0 := by
  intro outside
  apply inside
  rw [UInt64.and_assoc, UInt64.and_comm mask, ← UInt64.and_assoc, outside,
    UInt64.zero_and]

theorem length_signalInfo
    (signum pid : UInt64) :
    (signalInfo signum pid).length = 128 := by
  unfold signalInfo
  simp only [List.length_append, length_leBytes, List.length_replicate]

theorem signalFdRead_consumesNothing_iff
    (world : World)
    (state : State)
    (fd : Fd)
    (count : Nat) :
    ConsumesNothing (signalFdRead world fd count) state ↔
      ¬ SignalTaken world state fd count := by
  unfold signalFdRead SignalTaken
  by_cases outside : fd.id ≥ signalfdMax
  · rw [if_pos outside]
    exact
      consumesNothing_iff_of_clean (.of_readOnly .hang)
        fun taken => absurd taken.1 (Nat.not_lt.mpr outside)
  · rw [if_neg outside]
    unfold ConsumesNothing
    simp only [Prog.gets_bind_apply, id]
    change ConsumesNothing _ state ↔ _
    by_cases unused : (state.signalFds fd.id).used = false
    · rw [if_pos unused]
      refine consumesNothing_iff_of_clean (.of_readOnly (.fail _)) ?_
      rintro ⟨_, used, _⟩
      rw [unused] at used
      cases used
    · rw [if_neg unused]
      rw [Bool.not_eq_false] at unused
      cases lowest :
          Signals.lowestSignal
            (state.pending &&& (state.signalFds fd.id).mask) with
      | none =>
          exact
            consumesNothing_iff_of_clean
              (.ite (.of_readOnly (.fail _)) (.of_readOnly (.pure _)))
              fun taken => taken.2.2.1 (Signals.lowestSignal_eq_none.mp lowest)
      | some signum =>
          have among := Signals.lowestSignal_mem lowest
          have nonempty :
              state.pending &&& (state.signalFds fd.id).mask ≠ 0 := by
            intro empty
            rw [Signals.lowestSignal_eq_none.mpr empty] at lowest
            cases lowest
          dsimp only
          rw [consumesNothing_late_iff (length_signalInfo _ _)]
          constructor
          · intro consumes taken
            exact
              touched_clearPending (and_ne_zero_of_and_and among)
                (consumes taken.2.2.2)
          · intro notTaken late
            exact
              absurd ⟨Nat.lt_of_not_le outside, unused, nonempty, late⟩
                notTaken

end VibuxOS.Files
